/-
# Updates as a handler sees them

A handler knows neither the components nor the updates that meet in its queues.  `Behaviour` is
all that it can notice of them, as long as no update has a queue applied while it is applied
itself: the container that a component shows, and for each update the `Effect` of running it.
That is the component it leaves, what it puts into queues meanwhile, in order, and whether it
goes through, refuses or aborts.  The effect may depend on the container, on the component and
on everything that waits.

`Behaviour.apply` is `takeAndReplay` for such updates.  Two facts about it carry the rest:

* `Queues.get_pushAll`: what a run of an update does to a queue is to append to it;
* `replay_map`: a replay does the same whatever else is kept beside the component.

The updates of `Carryover.State.Queue` are a behaviour too, unless they hold a drain
(`Update.run_eq_effect`, `applyQueue_eq_apply`).
-/
import Carryover.State.Replay

namespace Carryover.State

variable {γ σ υ : Type}

/-! ## 1. Putting many updates into queues -/

/-- The updates among `sent` that go to one address, in order. -/
def sentTo (a : Address) (sent : List (Address × Pending υ)) : List (Pending υ) :=
  sent.filterMap fun s => if s.1 = a then some s.2 else none

namespace Queues

/-- The queues once updates are put in, one after the other. -/
def pushAll (q : Queues υ) (sent : List (Address × Pending υ)) : Queues υ :=
  sent.foldl (fun q s => q.push s.1 s.2) q

/-- A queue grows by the update that is put in, and no other queue does. -/
theorem get_push (q : Queues υ) (a b : Address) (p : Pending υ) :
    (q.push a p).get b = q.get b ++ (if a = b then [p] else []) := by
  unfold push
  by_cases h : a = b
  · subst h
    rw [get_set_self, if_pos rfl]
  · rw [get_set_of_ne q (fun e => h e.symm), if_neg h, List.append_nil]

/-- **Running an update only appends to queues**, to each what is sent there. -/
theorem get_pushAll (q : Queues υ) (sent : List (Address × Pending υ)) (a : Address) :
    (q.pushAll sent).get a = q.get a ++ sentTo a sent := by
  induction sent generalizing q with
  | nil => exact (List.append_nil _).symm
  | cons s sent ih =>
    have hrest : (q.pushAll (s :: sent)).get a = (q.push s.1 s.2).get a ++ sentTo a sent :=
      ih (q.push s.1 s.2)
    rw [hrest, get_push]
    by_cases h : s.1 = a <;> simp [sentTo, h]

/-- What was put back stands before what came meanwhile, and no other queue changes. -/
theorem get_putBack (q : Queues υ) (a b : Address) (rest : List (Pending υ)) :
    (q.putBack a rest).get b = (if a = b then rest else []) ++ q.get b := by
  unfold putBack
  by_cases h : a = b
  · subst h
    rw [get_set_self, if_pos rfl]
  · rw [get_set_of_ne q (fun e => h e.symm), if_neg h, List.nil_append]

/-- Putting updates into queues one list after another is putting in both together. -/
theorem pushAll_append (q : Queues υ) (sent more : List (Address × Pending υ)) :
    q.pushAll (sent ++ more) = (q.pushAll sent).pushAll more :=
  List.foldl_append

end Queues

/-! ## 2. Behaviours -/

/-- What one run of an update comes to. -/
structure Effect (γ υ : Type) where
  /-- The component that it leaves, also when it does not go through. -/
  component : γ
  /-- What it put into queues, oldest first. -/
  sent : List (Address × Pending υ)
  outcome : Except Stop Unit

/-- The step that an effect is, among the queues around it. -/
def Effect.step (e : Effect γ υ) (live : Live γ υ) : Step γ υ :=
  (⟨e.component, live.queues.pushAll e.sent⟩, e.outcome)

/-- Components and updates as far as a handler notices them. -/
structure Behaviour (γ σ υ : Type) where
  expose : γ → Option σ
  run : υ → σ → Live γ υ → Effect γ υ

namespace Behaviour

/-- The step of an update. -/
def step (b : Behaviour γ σ υ) (u : υ) (old : σ) (live : Live γ υ) : Step γ υ :=
  (b.run u old live).step live

/-- The run of the queue of an address. -/
def apply (b : Behaviour γ σ υ) (a : Address) (live : Live γ υ) : Run γ υ :=
  takeAndReplay b.expose b.step a live

/-- A replay of updates of which none aborts does not abort. -/
theorem replay_ne_aborted (b : Behaviour γ σ υ)
    (h : ∀ u old live, (b.run u old live).outcome ≠ .error .aborted) (a : Address)
    (waiting : List (Pending υ)) (applied : Nat) (live : Live γ υ) :
    (replay b.expose b.step a waiting applied live).2 ≠ .error .aborted := by
  induction waiting generalizing applied live with
  | nil => exact nofun
  | cons p rest ih =>
    cases hx : b.expose live.component with
    | none =>
      rw [replay_cons_of_none hx]
      exact nofun
    | some old =>
      match hs : b.step p.update old live with
      | (next, .ok ()) =>
        rw [replay_cons_of_ok hx hs]
        exact ih (applied + 1) next
      | (next, .error (.refused e)) =>
        rw [replay_cons_of_refused hx hs]
        exact nofun
      | (next, .error .aborted) => exact absurd (congrArg Prod.snd hs) (h p.update old live)

end Behaviour

/-! ## 3. What is kept beside the component -/

/-- The same queues around what `f` makes of the component. -/
def Live.map {γ' : Type} (f : γ' → γ) (live : Live γ' υ) : Live γ υ :=
  ⟨f live.component, live.queues⟩

/-- **A replay does the same whatever else is kept beside the component.**  If `f` forgets
nothing that `expose` and `step` look at, a replay can be run before or after forgetting. -/
theorem replay_map {γ' : Type} (f : γ' → γ) {expose' : γ' → Option σ} {expose : γ → Option σ}
    {step' : υ → σ → Live γ' υ → Step γ' υ} {step : υ → σ → Live γ υ → Step γ υ}
    (hexpose : ∀ c, expose' c = expose (f c))
    (hstep : ∀ u old live, Prod.map (Live.map f) id (step' u old live)
      = step u old (live.map f))
    (a : Address) (waiting : List (Pending υ)) (applied : Nat) (live : Live γ' υ) :
    Prod.map (Live.map f) id (replay expose' step' a waiting applied live)
      = replay expose step a waiting applied (live.map f) := by
  induction waiting generalizing applied live with
  | nil => rfl
  | cons p rest ih =>
    have hseen : expose (live.map f).component = expose' live.component :=
      (hexpose live.component).symm
    cases hx : expose' live.component with
    | none =>
      rw [replay_cons_of_none hx, replay_cons_of_none (hseen.trans hx)]
      rfl
    | some old =>
      have hx' : expose (live.map f).component = some old := hseen.trans hx
      have hs' := hstep p.update old live
      cases hs : step' p.update old live with
      | mk next outcome =>
        rw [hs] at hs'
        match outcome with
        | .ok () =>
          rw [replay_cons_of_ok hx hs, replay_cons_of_ok hx' hs'.symm]
          exact ih (applied + 1) next
        | .error (.refused e) =>
          rw [replay_cons_of_refused hx hs, replay_cons_of_refused hx' hs'.symm]
          rfl
        | .error .aborted =>
          rw [replay_cons_of_aborted hx hs, replay_cons_of_aborted hx' hs'.symm]
          rfl

/-! ## 4. The updates that are known here -/

/-- The effect of a change to the component alone; none stands for an abort. -/
def Effect.ofChange (live : γ) : Except StateError (Option γ) → Effect γ υ
  | .ok (some c) => ⟨c, [], .ok ()⟩
  | .ok none => ⟨live, [], .error .aborted⟩
  | .error e => ⟨live, [], .error (.refused e)⟩

/-- The effect of two updates, the second run only if the first went through. -/
def Effect.andThen (first : Effect γ υ) (second : γ → Effect γ υ) : Effect γ υ :=
  match first.outcome with
  | .ok () =>
    let e := second first.component
    { e with sent := first.sent ++ e.sent }
  | .error _ => first

/-- The effect of an update; a drain counts as if nothing waited where it looks. -/
def Update.effect (old : Container) : Update → Component → Effect Component Update
  | command c, live => .ofChange live (c.run old live)
  | addTotal amount, live => .ofChange live (live.addTotal amount old)
  | setTotal total, live => .ofChange live (live.setTotal total)
  | fail e, live => .ofChange live (.error e)
  | nothing, live => ⟨live, [], .ok ()⟩
  | andThen u v, live => (u.effect old live).andThen fun c => v.effect old c
  | enqueue a mode u, live => ⟨live, [(a, ⟨mode, u⟩)], .ok ()⟩
  | drain _, live => ⟨live, [], .ok ()⟩
  | abort, live => ⟨live, [], .error .aborted⟩

/-- The behaviour of the components and updates that are known here. -/
def Update.behaviour : Behaviour Component Container Update where
  expose := Component.container?
  run u old live := u.effect old live.component

/-- A change to the component alone puts nothing into queues. -/
theorem Live.change_eq_step (live : Live Component Update)
    (r : Except StateError (Option Component)) :
    live.change r = (Effect.ofChange live.component r).step live := by
  match r with
  | .ok (some _) => rfl
  | .ok none => rfl
  | .error _ => rfl

/-- Steps one after the other are the step of both effects together. -/
theorem Effect.andThen_step (first : Effect Component Update)
    (second : Component → Effect Component Update) (live : Live Component Update) :
    (first.andThen second).step live =
      match first.step live with
      | (live, .ok ()) => (second live.component).step live
      | stopped => stopped := by
  obtain ⟨component, sent, outcome⟩ := first
  match outcome with
  | .ok () => simp only [andThen, step, Queues.pushAll_append]
  | .error _ => rfl

/-- **An update without drains is its effect**, whatever `nested` would do. -/
theorem Update.run_eq_effect (nested : Address → Live Component Update → Run Component Update)
    (old : Container) (u : Update) (live : Live Component Update) (hu : u.drains = 0) :
    u.run nested old live = (u.effect old live.component).step live := by
  induction u generalizing live with
  | command c => exact live.change_eq_step _
  | addTotal amount => exact live.change_eq_step _
  | setTotal total => exact live.change_eq_step _
  | fail e => exact live.change_eq_step _
  | nothing => rfl
  | andThen u v ihu ihv =>
    have hsum : u.drains + v.drains = 0 := hu
    unfold Update.run Update.effect
    rw [Effect.andThen_step, ihu live (by omega)]
    cases hs : (u.effect old live.component).step live with
    | mk next outcome =>
      match outcome with
      | .ok () => exact ihv next (by omega)
      | .error _ => rfl
  | enqueue a mode u => rfl
  | drain a => exact absurd hu Nat.one_ne_zero
  | abort => rfl

/-- A replay asks for no more than the steps of what waits. -/
theorem replay_congr {expose : γ → Option σ} {step step' : υ → σ → Live γ υ → Step γ υ}
    (a : Address) (waiting : List (Pending υ))
    (h : ∀ p ∈ waiting, ∀ old live, step p.update old live = step' p.update old live)
    (applied : Nat) (live : Live γ υ) :
    replay expose step a waiting applied live = replay expose step' a waiting applied live := by
  induction waiting generalizing applied live with
  | nil => rfl
  | cons p rest ih =>
    have hrest := ih fun p' hp' => h p' (List.mem_cons_of_mem p hp')
    unfold replay
    cases expose live.component with
    | none => rfl
    | some old =>
      simp only [h p List.mem_cons_self old live, hrest]

/-- **The run of a queue without drains is the run of a behaviour.** -/
theorem applyQueue_eq_apply (a : Address) (live : Live Component Update)
    (h : ∀ p ∈ live.queues.get a, p.update.drains = 0) :
    applyQueue a live = Update.behaviour.apply a live := by
  unfold applyQueue applyWithin Behaviour.apply takeAndReplay
  refine replay_congr a _ ?_ 0 _
  intro p hp old next
  exact Update.run_eq_effect _ old p.update next (h p hp)

end Carryover.State
