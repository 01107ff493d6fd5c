/-
# Components and their containers

A component is made anew for every generation.  What outlives a generation is its container,
the record of its state.  `Component.transfer` copies an old container into a new component,
and `carryForward` does so between two components: a component without state takes nothing,
and the container has to be of the new component's own kind.  A greeter's salutation belongs
to the component and is never carried.
-/
import Carryover.State.Kind

namespace Carryover.State

/-! ## 1. The records of state -/

/-- The state of a counter. -/
structure CounterState where
  count : Int32
  deriving DecidableEq, Repr

/-- The state of a label. -/
structure LabelState where
  text : String
  edits : UInt32
  deriving DecidableEq, Repr

/-- The state of a title, with the titles before it, oldest first. -/
structure TitleState where
  title : String
  history : List String
  deriving DecidableEq, Repr

/-- The state of a greeter. -/
structure GreeterState where
  greeting : String
  deriving DecidableEq, Repr

/-- The state of a tally. -/
structure TallyState where
  total : Int64
  deriving DecidableEq, Repr

/-! ## 2. Containers and components -/

/-- A container of any kind. -/
inductive Container where
  | counter (state : CounterState)
  | label (state : LabelState)
  | title (state : TitleState)
  | greeter (state : GreeterState)
  | tally (state : TallyState)
  deriving DecidableEq, Repr

/-- A component of any kind. -/
inductive Component where
  | counter (state : CounterState)
  | label (state : LabelState)
  | title (state : TitleState)
  | greeter (salutation : String) (state : GreeterState)
  | badge
  | tally (state : TallyState)
  | hollow
  deriving DecidableEq, Repr

/-- The kind that a container belongs to. -/
def Container.kind : Container → Kind
  | counter _ => .counter
  | label _ => .label
  | title _ => .title
  | greeter _ => .greeter
  | tally _ => .tally

namespace Component

/-- The kind of a component. -/
def kind : Component → Kind
  | counter _ => .counter
  | label _ => .label
  | title _ => .title
  | greeter _ _ => .greeter
  | badge => .badge
  | tally _ => .tally
  | hollow => .hollow

/-- Whether a component says that it keeps state. -/
def hasState : Component → Bool
  | badge => false
  | _ => true

/-- The container that a component exposes. -/
def container? : Component → Option Container
  | counter s => some (.counter s)
  | label s => some (.label s)
  | title s => some (.title s)
  | greeter _ s => some (.greeter s)
  | badge => none
  | tally s => some (.tally s)
  | hollow => none

end Component

/-! ## 3. Containers and components of one kind -/

/-- The error for a container that is not of a kind. -/
def notContainer {α : Type} (k : Kind) : Except StateError α :=
  .error (.containerMismatch (.container k))

/-- The error for a component that is not of a kind. -/
def notComponent {α : Type} (k : Kind) : Except StateError α :=
  .error (.componentMismatch (.component k))

namespace Container

/-- The state in a counter's container. -/
def asCounter : Container → Except StateError CounterState
  | counter s => .ok s
  | _ => notContainer .counter

/-- The state in a label's container. -/
def asLabel : Container → Except StateError LabelState
  | label s => .ok s
  | _ => notContainer .label

/-- The state in a title's container. -/
def asTitle : Container → Except StateError TitleState
  | title s => .ok s
  | _ => notContainer .title

/-- The state in a greeter's container. -/
def asGreeter : Container → Except StateError GreeterState
  | greeter s => .ok s
  | _ => notContainer .greeter

/-- The state in a tally's container. -/
def asTally : Container → Except StateError TallyState
  | tally s => .ok s
  | _ => notContainer .tally

/-- A container, if it is of a kind. -/
def ofKind (c : Container) (k : Kind) : Except StateError Container :=
  if c.kind = k then .ok c else notContainer k

end Container

namespace Component

/-- The state of a counter. -/
def asCounter : Component → Except StateError CounterState
  | counter s => .ok s
  | _ => notComponent .counter

/-- The state of a label. -/
def asLabel : Component → Except StateError LabelState
  | label s => .ok s
  | _ => notComponent .label

/-- The state of a title. -/
def asTitle : Component → Except StateError TitleState
  | title s => .ok s
  | _ => notComponent .title

/-- The salutation and the state of a greeter. -/
def asGreeter : Component → Except StateError (String × GreeterState)
  | greeter w s => .ok (w, s)
  | _ => notComponent .greeter

/-- The state of a tally. -/
def asTally : Component → Except StateError TallyState
  | tally s => .ok s
  | _ => notComponent .tally

/-- A component, if it is of a kind. -/
def ofKind (c : Component) (k : Kind) : Except StateError Component :=
  if c.kind = k then .ok c else notComponent k

end Component

/-! ## 4. From one generation to the next -/

/-- **A new component with the state of an old container.**  Every field of the state is
copied.  A component without a container of its own takes any container and stays as it is. -/
def Component.transfer (next : Component) (old : Container) : Except StateError Component :=
  match next with
  | .counter _ => old.asCounter.map .counter
  | .label _ => old.asLabel.map .label
  | .title _ => old.asTitle.map .title
  | .greeter w _ => old.asGreeter.map (.greeter w)
  | .tally _ => old.asTally.map .tally
  | .badge => .ok .badge
  | .hollow => .ok .hollow

/-- The component `next` with the state of `prev`; none if `next` keeps no state. -/
def carryForward (prev next : Component) : Except StateError (Option Component) :=
  if next.hasState then
    match prev.container? with
    | none => .error .missingContainer
    | some old => (next.transfer old).map some
  else .ok none

end Carryover.State
