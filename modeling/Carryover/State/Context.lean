/-
# Contexts and requests

Updates are requested through a context.  It may be scoped to a component under a key, and it
may know a handler; only with both does an update reach a queue, and otherwise it is dropped
without a word.

A request is what a component's entry points offer.  It becomes a command only if the scoped
component is of the request's kind.  A greeting takes the salutation of the scoped component,
so the command does not depend on the component that it is applied to.
-/
import Carryover.Decimal.Notation
import Carryover.Model.Generated
import Carryover.State.Queue
import Carryover.Text.Quoted

namespace Carryover.State

/-! ## 1. Contexts -/

/-- A component under its key, as it was when the scope was made. -/
structure Scope where
  key : String
  component : Component
  deriving DecidableEq, Repr

/-- Where updates are requested. -/
structure Context where
  scope : Option Scope
  handler : Option Nat
  deriving DecidableEq, Repr

namespace Context

/-- The context with neither scope nor handler. -/
def detached : Context :=
  ⟨none, none⟩

/-- The context of a handler, not yet scoped. -/
def ofHandler (handler : Nat) : Context :=
  ⟨none, some handler⟩

/-- The context scoped to a component. -/
def withScope (c : Context) (key : String) (component : Component) : Context :=
  { c with scope := some ⟨key, component⟩ }

/-- The place of the queue that the context's updates go to. -/
def address? (c : Context) : Option Address := do
  return ⟨← c.handler, (← c.scope).key⟩

/-- The queues once an update is handed in; without a place to go it is dropped. -/
def submit (c : Context) (mode : Mode) (u : Update) (q : Queues Update) : Queues Update :=
  match c.address? with
  | none => q
  | some a => q.push a ⟨mode, u⟩

/-- A context in words. -/
def describe (c : Context) : String :=
  "ComponentContext \x7b scope: " ++
    (match c.scope with
      | none => "None"
      | some s => "Some(ComponentKey(" ++ Text.quote s.key ++ "))") ++
    ", has_dispatcher: " ++ (if c.handler.isSome then "true" else "false") ++ " \x7d"

end Context

/-! ## 2. Requests -/

/-- A value that can be shown as text. -/
inductive Shown where
  | text (s : String)
  | flag (b : Bool)
  | whole (i : Int)
  /-- A double, by its bits. -/
  | decimal (bits : UInt64)
  | letter (c : Char)
  deriving DecidableEq, Repr

/-- How a value is shown. -/
def Shown.write : Shown → String
  | text s => s
  | flag b => if b then "true" else "false"
  | whole i => if i < 0 then "-" ++ Nat.repr i.natAbs else Nat.repr i.natAbs
  | decimal bits => Decimal.plain bits
  | letter c => String.singleton c

/-- What entry points offer, with the values given. -/
inductive Request where
  | increment (delta : Int32)
  | reset
  | append (suffix : String)
  | overwriteText (text : String)
  | wrap (before after : String)
  | touch
  | pushDisplay (shown : Shown)
  | greet (name : String)
  deriving DecidableEq, Repr

namespace Request

/-- The kind of component that has the entry point. -/
def kind : Request → Kind
  | increment _ => .counter
  | reset => .counter
  | append _ => .label
  | overwriteText _ => .label
  | wrap _ _ => .title
  | touch => .title
  | pushDisplay _ => .title
  | greet _ => .greeter

/-- The mode that a request is handed in with: an overwrite is always lazy. -/
def mode (t : Timing) : Request → Mode
  | overwriteText _ => .lazy
  | _ =>
    match t with
    | .sync => .sync
    | .async => .async

/-- The command of a request for the scoped component. -/
def command? : Request → Component → Option Command
  | increment d, .counter _ => some (.increment d)
  | reset, .counter _ => some .reset
  | append s, .label _ => some (.append s)
  | overwriteText s, .label _ => some (.overwriteText s)
  | wrap b a, .title _ => some (.wrap b a)
  | touch, .title _ => some .touch
  | pushDisplay v, .title _ => some (.pushDisplay v.write)
  | greet name, .greeter salutation _ => some (.greet salutation name)
  | _, _ => none

end Request

/-- The queues once a request is made in a context. -/
def Context.request (c : Context) (t : Timing) (r : Request) (q : Queues Update) : Queues Update :=
  match c.scope.bind fun s => r.command? s.component with
  | none => q
  | some command => c.submit (r.mode t) (.command command) q

end Carryover.State
