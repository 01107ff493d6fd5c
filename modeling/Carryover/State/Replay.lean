/-
# Applying what waits

`takeAndReplay` takes the queue of an address and applies its updates to a component, in order.
Each update reads the container as the update before it left it.

* If the component exposes no container, the update and all behind it go back.
* An update that refuses is gone, what it did stays, and those behind it go back.  What goes
  back stands before what was put into the queue meanwhile.
* An update that aborts ends everything; those behind it are gone too.

Neither the components nor the updates need to be known for this: `expose` is the container
that a component shows, and `step` what an update does.  `applyQueue` is the case of the
components and updates that are known here.  There an update may itself have a queue applied
(`Update.drain`).  Each drain that runs was taken out of a queue before, so runs nest no deeper
than there are drains in all queues; `applyQueue` allows exactly that depth.
-/
import Carryover.State.Queue

namespace Carryover.State

/-- Why applying ended early. -/
inductive Stop where
  | refused (e : StateError)
  | aborted
  deriving DecidableEq, Repr

/-! ## 1. Replays -/

section Replay

variable {γ σ υ : Type}

/-- A component with the queues around it, while updates are applied. -/
structure Live (γ υ : Type) where
  component : γ
  queues : Queues υ
  deriving Repr

/-- A run of a queue: what is left, with the number of updates applied. -/
abbrev Run (γ υ : Type) :=
  Live γ υ × Except Stop Nat

/-- One run of an update: what is left, and whether it went through. -/
abbrev Step (γ υ : Type) :=
  Live γ υ × Except Stop Unit

/-- The run of the updates taken from the queue of `a`, `applied` of which went before. -/
def replay (expose : γ → Option σ) (step : υ → σ → Live γ υ → Step γ υ) (a : Address) :
    List (Pending υ) → Nat → Live γ υ → Run γ υ
  | [], applied, live => (live, .ok applied)
  | p :: rest, applied, live =>
    match expose live.component with
    | none =>
      ({ live with queues := live.queues.putBack a (p :: rest) },
        .error (.refused .missingContainer))
    | some old =>
      match step p.update old live with
      | (live, .ok ()) => replay expose step a rest (applied + 1) live
      | (live, .error (.refused e)) =>
        ({ live with queues := live.queues.putBack a rest }, .error (.refused e))
      | (live, .error .aborted) => (live, .error .aborted)

section Equations

variable {expose : γ → Option σ} {step : υ → σ → Live γ υ → Step γ υ} {a : Address}
  {p : Pending υ} {rest : List (Pending υ)} {applied : Nat} {live next : Live γ υ} {old : σ}

/-- Before a component without a container the update and all behind it go back. -/
theorem replay_cons_of_none (hx : expose live.component = none) :
    replay expose step a (p :: rest) applied live
      = ({ live with queues := live.queues.putBack a (p :: rest) },
        .error (.refused .missingContainer)) := by
  rw [replay, hx]

/-- Behind an update that went through, the replay goes on. -/
theorem replay_cons_of_ok (hx : expose live.component = some old)
    (hs : step p.update old live = (next, .ok ())) :
    replay expose step a (p :: rest) applied live
      = replay expose step a rest (applied + 1) next := by
  rw [replay, hx]
  simp only [hs]

/-- An update that refused is gone, and those behind it go back. -/
theorem replay_cons_of_refused {e : StateError} (hx : expose live.component = some old)
    (hs : step p.update old live = (next, .error (.refused e))) :
    replay expose step a (p :: rest) applied live
      = ({ next with queues := next.queues.putBack a rest }, .error (.refused e)) := by
  rw [replay, hx]
  simp only [hs]

/-- An update that aborted ends everything. -/
theorem replay_cons_of_aborted (hx : expose live.component = some old)
    (hs : step p.update old live = (next, .error .aborted)) :
    replay expose step a (p :: rest) applied live = (next, .error .aborted) := by
  rw [replay, hx]
  simp only [hs]

end Equations

/-- Takes the queue of an address and runs it. -/
def takeAndReplay (expose : γ → Option σ) (step : υ → σ → Live γ υ → Step γ υ) (a : Address)
    (live : Live γ υ) : Run γ υ :=
  replay expose step a (live.queues.get a) 0 { live with queues := live.queues.set a [] }

end Replay

/-! ## 2. The updates that are known here -/

/-- Adds to the total in the container `old` and stores the sum, which wraps at 64 bits. -/
def Component.addTotal (c : Component) (amount : Int64) (old : Container) :
    Except StateError (Option Component) := do
  let seed ← old.asTally
  let _ ← c.asTally
  return some (.tally ⟨seed.total + amount⟩)

/-- Stores a total. -/
def Component.setTotal (c : Component) (total : Int64) :
    Except StateError (Option Component) := do
  let _ ← c.asTally
  return some (.tally ⟨total⟩)

/-- The step of a change to the component alone; none stands for an abort. -/
def Live.change (live : Live Component Update) :
    Except StateError (Option Component) → Step Component Update
  | .ok (some c) => ({ live with component := c }, .ok ())
  | .ok none => (live, .error .aborted)
  | .error e => (live, .error (.refused e))

/-- **The step of an update.**  `old` is the container that it reads, and `nested` has a queue
applied. -/
def Update.run (nested : Address → Live Component Update → Run Component Update) :
    Update → Container → Live Component Update → Step Component Update
  | command c, old, live => live.change (c.run old live.component)
  | addTotal amount, old, live => live.change (live.component.addTotal amount old)
  | setTotal total, _, live => live.change (live.component.setTotal total)
  | fail e, _, live => live.change (.error e)
  | nothing, _, live => (live, .ok ())
  | andThen u v, old, live =>
    match u.run nested old live with
    | (live, .ok ()) => v.run nested old live
    | stopped => stopped
  | enqueue a mode u, _, live =>
    ({ live with queues := live.queues.push a ⟨mode, u⟩ }, .ok ())
  | drain a, _, live =>
    let (live, outcome) := nested a live
    (live, outcome.map fun _ => ())
  | abort, _, live => (live, .error .aborted)

/-- Takes the queue of an address and runs it, with runs nested up to a depth. -/
def applyWithin : Nat → Address → Live Component Update → Run Component Update
  | 0, _, live => (live, .ok 0)
  | depth + 1, a, live =>
    takeAndReplay Component.container? (Update.run (applyWithin depth)) a live

/-- **The run of the queue of an address.** -/
def applyQueue (a : Address) (live : Live Component Update) : Run Component Update :=
  applyWithin (live.queues.drains + 1) a live

end Carryover.State
