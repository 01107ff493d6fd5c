/-
# Components, contexts and queues side by side

A `Stage` holds what the runtime works on: components and contexts, each under a number, and the
queues.  A `Deed` is one thing that is done there: a component is made, a context is made from
nothing or from another, a request is made through a context, state is carried from one component to
another, an update or a whole queue is applied to a component.

A context is kept as its `Lineage`, the way in which it came to be.  `Lineage.context_eq` says what a
context is in terms of it: it has the handler of its beginning and the last scope that was given.

Components have no parts in common, and a deed writes one component at most (`Deed.target?`).  So any
number of deeds leaves a component as it was that none of them writes (`components_doAll`).
-/
import Carryover.Proofs.Generation.Request
import Carryover.State.Replay
import Mathlib.Logic.Function.Basic

namespace Carryover.State

/-! ## 1. Contexts -/

/-- How a context came to be. -/
inductive Lineage where
  | detached
  | ofHandler (handler : Nat)
  | within (parent : Lineage) (key : String) (component : Component)
  | cloned (parent : Lineage)
  deriving DecidableEq, Repr

namespace Lineage

/-- The context that came to be. -/
def context : Lineage → Context
  | detached => .detached
  | ofHandler handler => .ofHandler handler
  | within parent key component => parent.context.withScope key component
  | cloned parent => parent.context

/-- The handler that stands at the beginning. -/
def handler? : Lineage → Option Nat
  | detached => none
  | ofHandler handler => some handler
  | within parent _ _ => parent.handler?
  | cloned parent => parent.handler?

/-- The scopes that were given, oldest first. -/
def scopes : Lineage → List Scope
  | detached => []
  | ofHandler _ => []
  | within parent key component => parent.scopes ++ [⟨key, component⟩]
  | cloned parent => parent.scopes

/-- **A context knows its first handler and its last scope.** -/
theorem context_eq (l : Lineage) : l.context = ⟨l.scopes.getLast?, l.handler?⟩ := by
  induction l with
  | detached => rfl
  | ofHandler handler => rfl
  | within parent key component ih =>
    rw [context, ih, scopes, List.getLast?_concat]
    rfl
  | cloned parent ih => exact ih

end Lineage

/-! ## 2. Stages and deeds -/

/-- Components and contexts by number, and the queues. -/
structure Stage where
  components : Nat → Component
  contexts : Nat → Lineage
  queues : Queues Update

/-- The component `next` once state was carried to it from `prev`, as far as that can be done. -/
def Component.carriedFrom (prev next : Component) : Component :=
  match carryForward prev next with
  | .ok (some c) => c
  | _ => next

/-- One thing that is done. -/
inductive Deed where
  /-- A component is made. -/
  | create (n : Nat) (component : Component)
  /-- A context is made, with a handler or detached. -/
  | context (i : Nat) (handler : Option Nat)
  /-- A context is scoped to a component as it is now. -/
  | scope (i parent : Nat) (key : String) (n : Nat)
  | clone (i parent : Nat)
  | request (i : Nat) (timing : Timing) (request : Request)
  | carry (prev next : Nat)
  /-- An update is run on a component. -/
  | update (u : Update) (old : Container) (n : Nat)
  /-- A queue is applied to a component. -/
  | apply (a : Address) (n : Nat)

/-- The component that a deed writes. -/
def Deed.target? : Deed → Option Nat
  | create n _ => some n
  | carry _ next => some next
  | update _ _ n => some n
  | apply _ n => some n
  | _ => none

namespace Stage

/-- The stage with another component under a number, and other queues. -/
def put (s : Stage) (n : Nat) (live : Live Component Update) : Stage :=
  { s with components := Function.update s.components n live.component, queues := live.queues }

/-- The stage with another context under a number. -/
def putContext (s : Stage) (i : Nat) (l : Lineage) : Stage :=
  { s with contexts := Function.update s.contexts i l }

/-- A component with the queues around it. -/
def live (s : Stage) (n : Nat) : Live Component Update :=
  ⟨s.components n, s.queues⟩

/-- The stage after a deed. -/
def act (s : Stage) : Deed → Stage
  | .create n component => s.put n ⟨component, s.queues⟩
  | .context i none => s.putContext i .detached
  | .context i (some handler) => s.putContext i (.ofHandler handler)
  | .scope i parent key n => s.putContext i (.within (s.contexts parent) key (s.components n))
  | .clone i parent => s.putContext i (.cloned (s.contexts parent))
  | .request i timing request =>
    { s with queues := (s.contexts i).context.request timing request s.queues }
  | .carry prev next => s.put next ⟨(s.components prev).carriedFrom (s.components next), s.queues⟩
  | .update u old n => s.put n (u.run applyQueue old (s.live n)).1
  | .apply a n => s.put n (applyQueue a (s.live n)).1

/-- The stage after deeds, one after the other. -/
def doAll (s : Stage) (deeds : List Deed) : Stage :=
  deeds.foldl act s

/-- The component that was put under a number is there. -/
theorem components_put_self (s : Stage) (n : Nat) (live : Live Component Update) :
    (s.put n live).components n = live.component := by
  unfold put
  exact Function.update_self n live.component s.components

/-- Another component is as it was. -/
theorem components_put_of_ne (s : Stage) {n k : Nat} (h : k ≠ n) (live : Live Component Update) :
    (s.put n live).components k = s.components k := by
  unfold put
  exact Function.update_of_ne h live.component s.components

/-- **A deed writes its target alone.** -/
theorem components_act {s : Stage} {d : Deed} {k : Nat} (h : d.target? ≠ some k) :
    (s.act d).components k = s.components k := by
  have hne : ∀ {n : Nat}, some n ≠ some k → k ≠ n := fun hn e => hn (congrArg some e.symm)
  cases d with
  | create n component => exact s.components_put_of_ne (hne h) _
  | context i handler => cases handler <;> rfl
  | scope i parent key n => rfl
  | clone i parent => rfl
  | request i timing request => rfl
  | carry prev next => exact s.components_put_of_ne (hne h) _
  | update u old n => exact s.components_put_of_ne (hne h) _
  | apply a n => exact s.components_put_of_ne (hne h) _

/-- **What no deed writes stays**, however many there are. -/
theorem components_doAll {deeds : List Deed} {k : Nat} (h : ∀ d ∈ deeds, d.target? ≠ some k)
    (s : Stage) : (s.doAll deeds).components k = s.components k := by
  induction deeds generalizing s with
  | nil => rfl
  | cons d deeds ih =>
    obtain ⟨hd, hdeeds⟩ := List.forall_mem_cons.mp h
    exact (ih hdeeds (s.act d)).trans (components_act hd)

end Stage

end Carryover.State
