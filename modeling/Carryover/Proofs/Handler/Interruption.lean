/-
# What an interrupted run leaves behind

A run of a queue ends early when the component exposes no container, when an update refuses, and
when an update aborts.  `replay_cases` says once what a run comes to, for updates of any kind, also
for such as have queues applied themselves: in the first two cases what is left of the queue goes
back, and after an abort nothing does.

For a `Behaviour` the queues after a run are said completely by `waiting_after_apply`.  Each has
grown by what was dispatched to it meanwhile, and the queue that was run holds before that what went
back.  So an update that refuses costs only itself, and one that aborts costs itself and everything
behind it; `exists_update_lost` is a queue of two updates of a label of which the second is lost
with the first.
-/
import Carryover.Proofs.Handler.Conservation

namespace Carryover.State

variable {γ σ υ : Type}

/-! ## 1. What a run comes to -/

/-- **A run goes through, or it ends at one update.**  Those before it went through.  If the
component exposes no container the update and all behind it go back; if the update refuses those
behind it go back; if it aborts nothing does. -/
theorem replay_cases (expose : γ → Option σ) (step : υ → σ → Live γ υ → Step γ υ) (a : Address)
    (waiting : List (Pending υ)) (applied : Nat) (live : Live γ υ) :
    (∃ last, replay expose step a waiting applied live = (last, .ok (applied + waiting.length))) ∨
    ∃ before p rest mid, waiting = before ++ p :: rest ∧
      replay expose step a before applied live = (mid, .ok (applied + before.length)) ∧
      ((expose mid.component = none ∧ replay expose step a waiting applied live
          = ({ mid with queues := mid.queues.putBack a (p :: rest) },
            .error (.refused .missingContainer))) ∨
        ∃ old next, expose mid.component = some old ∧
          ((∃ e, step p.update old mid = (next, .error (.refused e)) ∧
              replay expose step a waiting applied live
                = ({ next with queues := next.queues.putBack a rest }, .error (.refused e))) ∨
            step p.update old mid = (next, .error .aborted) ∧
              replay expose step a waiting applied live = (next, .error .aborted))) := by
  induction waiting generalizing applied live with
  | nil => exact .inl ⟨live, rfl⟩
  | cons p rest ih =>
    cases hx : expose live.component with
    | none => exact .inr ⟨[], p, rest, live, rfl, rfl, .inl ⟨hx, replay_cons_of_none hx⟩⟩
    | some old =>
      match hs : step p.update old live with
      | (next, .ok ()) =>
        have hcount : ∀ n, applied + 1 + n = applied + (n + 1) := by omega
        rw [replay_cons_of_ok hx hs]
        rcases ih (applied + 1) next with
          ⟨last, hall⟩ | ⟨before, q, behind, mid, rfl, hbefore, hend⟩
        · exact .inl ⟨last, by rw [hall, hcount, List.length_cons]⟩
        · refine .inr ⟨p :: before, q, behind, mid, rfl, ?_, hend⟩
          rw [replay_cons_of_ok hx hs, hbefore, hcount, List.length_cons]
      | (next, .error (.refused e)) =>
        exact .inr ⟨[], p, rest, live, rfl, rfl,
          .inr ⟨old, next, hx, .inl ⟨e, hs, replay_cons_of_refused hx hs⟩⟩⟩
      | (next, .error .aborted) =>
        exact .inr ⟨[], p, rest, live, rfl, rfl,
          .inr ⟨old, next, hx, .inr ⟨hs, replay_cons_of_aborted hx hs⟩⟩⟩

/-! ## 2. What the updates of a run do -/

/-- What happens to updates in a run of the queue of an address. -/
def Behaviour.events (b : Behaviour γ σ υ) (a : Address) (live : Live γ υ) : List (Event υ) :=
  ((b.recording a).apply a ⟨(live.component, []), live.queues⟩).1.component.2

/-- What is put back of the updates that a run did not come to. -/
def putBackOf (outcome : Except Stop Nat) (rest : List (Pending υ)) : List (Pending υ) :=
  match outcome with
  | .error .aborted => []
  | _ => rest

/-- The events `more` follow the recorded ones: they consume the updates `done` of the queue of `a`,
and the queues have grown by what they dispatch. -/
structure Grown (a : Address) (done : List (Pending υ)) (more : List (Event υ))
    (live next : Live (γ × List (Event υ)) υ) : Prop where
  events_eq : next.component.2 = live.component.2 ++ more
  consumed_eq : consumedAt a more = done.map (·.update)
  get_eq : ∀ k, next.queues.get k = live.queues.get k ++ dispatchedAt k more

/-- One update is run. -/
theorem grown_step (b : Behaviour γ σ υ) (a : Address) (p : Pending υ) (old : σ)
    (live : Live (γ × List (Event υ)) υ) :
    Grown a [p] (runEvents a p.update (b.run p.update old (live.map Prod.fst)).sent) live
      ((b.recording a).step p.update old live).1 where
  events_eq := rfl
  consumed_eq := by
    rw [consumedAt_runEvents, if_pos rfl]
    rfl
  get_eq k := by
    rw [dispatchedAt_runEvents]
    exact live.queues.get_pushAll _ k

/-- Runs one after the other are one run. -/
theorem Grown.trans {a : Address} {done done' : List (Pending υ)} {more more' : List (Event υ)}
    {live next last : Live (γ × List (Event υ)) υ} (h : Grown a done more live next)
    (h' : Grown a done' more' next last) : Grown a (done ++ done') (more ++ more') live last where
  events_eq := by
    rw [h'.events_eq, h.events_eq, List.append_assoc]
  consumed_eq := by
    have happend : consumedAt a (more ++ more') = consumedAt a more ++ consumedAt a more' :=
      List.filterMap_append
    rw [happend, h.consumed_eq, h'.consumed_eq, List.map_append]
  get_eq k := by
    have happend : dispatchedAt k (more ++ more') = dispatchedAt k more ++ dispatchedAt k more' :=
      List.filterMap_append
    rw [h'.get_eq, h.get_eq, happend, List.append_assoc]

/-- **Updates that all go through are consumed**, and the queues grow by what they dispatch. -/
theorem exists_grown_of_ok (b : Behaviour γ σ υ) (a : Address) (waiting : List (Pending υ))
    (applied n : Nat) (live last : Live (γ × List (Event υ)) υ)
    (h : replay (b.recording a).expose (b.recording a).step a waiting applied live
      = (last, .ok n)) : ∃ more, Grown a waiting more live last := by
  induction waiting generalizing applied live with
  | nil =>
    obtain ⟨rfl, -⟩ := Prod.mk.inj h
    exact ⟨[], (List.append_nil _).symm, rfl, fun k => (List.append_nil _).symm⟩
  | cons p rest ih =>
    cases hx : (b.recording a).expose live.component with
    | none =>
      rw [replay_cons_of_none hx] at h
      exact absurd (congrArg Prod.snd h) nofun
    | some old =>
      have hone := grown_step b a p old live
      match hs : (b.recording a).step p.update old live with
      | (next, .ok ()) =>
        rw [hs] at hone
        rw [replay_cons_of_ok hx hs] at h
        obtain ⟨more, hrest⟩ := ih (applied + 1) next h
        exact ⟨_, hone.trans hrest⟩
      | (next, .error (.refused e)) =>
        rw [replay_cons_of_refused hx hs] at h
        exact absurd (congrArg Prod.snd h) nofun
      | (next, .error .aborted) =>
        rw [replay_cons_of_aborted hx hs] at h
        exact absurd (congrArg Prod.snd h) nofun

/-! ## 3. What is left -/

/-- What the run with events at its side leaves is what the run itself leaves. -/
theorem Behaviour.apply_of_recorded {b : Behaviour γ σ υ} {a : Address} {live : Live γ υ}
    {last : Live (γ × List (Event υ)) υ} {outcome : Except Stop Nat}
    (h : replay (b.recording a).expose (b.recording a).step a (live.queues.get a) 0
      ⟨(live.component, []), live.queues.set a []⟩ = (last, outcome)) :
    b.apply a live = (last.map Prod.fst, outcome) ∧ b.events a live = last.component.2 := by
  have hrecorded : (b.recording a).apply a ⟨(live.component, []), live.queues⟩ = (last, outcome) :=
    h
  have hsame := b.apply_recording a ⟨(live.component, []), live.queues⟩
  rw [hrecorded] at hsame
  exact ⟨hsame.symm, congrArg (fun r => r.1.component.2) hrecorded⟩

/-- A run that consumes `done`, does `more` by that and then puts back what its outcome says of
`rest` leaves in every queue what was there with what was dispatched behind it; in its own, what
went back. -/
theorem waiting_of_grown {b : Behaviour γ σ υ} {a : Address} {live : Live γ υ}
    {done : List (Pending υ)} {more : List (Event υ)} {next last : Live (γ × List (Event υ)) υ}
    {outcome : Except Stop Nat} (rest : List (Pending υ))
    (hgrown : Grown a done more ⟨(live.component, []), live.queues.set a []⟩ next)
    (hrun : replay (b.recording a).expose (b.recording a).step a (live.queues.get a) 0
      ⟨(live.component, []), live.queues.set a []⟩ = (last, outcome))
    (hcomponent : last.component = next.component)
    (hqueues : last.queues.get
      = fun k => (if a = k then putBackOf outcome rest else []) ++ next.queues.get k) :
    consumedAt a (b.events a live) = done.map (·.update) ∧
      (∀ k, k ≠ a → (b.apply a live).1.queues.get k
        = live.queues.get k ++ dispatchedAt k (b.events a live)) ∧
      (b.apply a live).1.queues.get a
        = putBackOf (b.apply a live).2 rest ++ dispatchedAt a (b.events a live) := by
  obtain ⟨happly, hevents⟩ := Behaviour.apply_of_recorded hrun
  have hmore : b.events a live = more := by
    rw [hevents, hcomponent, hgrown.events_eq, List.nil_append]
  have hget : (b.apply a live).1.queues.get = last.queues.get := by
    rw [happly]
    rfl
  rw [hmore, hget, hqueues]
  refine ⟨hgrown.consumed_eq, ?_, ?_⟩
  · intro k hk
    have hother : ¬ a = k := fun e => hk e.symm
    simp only [if_neg hother, List.nil_append, hgrown.get_eq, Queues.get_set_of_ne live.queues hk]
  · simp only [if_pos, happly, hgrown.get_eq, Queues.get_set_self, List.nil_append]

/-- **The queues after a run.**  The updates `done` were consumed, and the run did not come to
`rest`.  Every queue has grown by what was dispatched to it.  The queue of the run holds in front of
that the `rest`, unless an update aborted.  Then that was the last of `done`, those before it went
through, and the `rest` is gone. -/
theorem waiting_after_apply (b : Behaviour γ σ υ) (a : Address) (live : Live γ υ) :
    ∃ done rest, live.queues.get a = done ++ rest ∧
      (consumedAt a (b.events a live) = done.map (·.update) ∧
        (∀ k, k ≠ a → (b.apply a live).1.queues.get k
          = live.queues.get k ++ dispatchedAt k (b.events a live)) ∧
        (b.apply a live).1.queues.get a
          = putBackOf (b.apply a live).2 rest ++ dispatchedAt a (b.events a live)) ∧
      (∀ n, (b.apply a live).2 = .ok n → rest = [] ∧ n = done.length) ∧
      ((b.apply a live).2 = .error .aborted → ∃ before p mid old, done = before ++ [p] ∧
        replay b.expose b.step a before 0 ⟨live.component, live.queues.set a []⟩
          = (mid, .ok before.length) ∧
        b.expose mid.component = some old ∧
        (b.run p.update old mid).outcome = .error .aborted) := by
  rcases replay_cases (b.recording a).expose (b.recording a).step a (live.queues.get a) 0
      ⟨(live.component, []), live.queues.set a []⟩ with
    ⟨last, hall⟩ | ⟨before, p, rest, mid, hsplit, hbefore, hend⟩
  · -- everything went through
    obtain ⟨more, hgrown⟩ := exists_grown_of_ok b a _ 0 _ _ _ hall
    have hleft := waiting_of_grown [] hgrown hall rfl (by simp [putBackOf])
    obtain ⟨happly, -⟩ := Behaviour.apply_of_recorded hall
    refine ⟨live.queues.get a, [], (List.append_nil _).symm, hleft, ?_, ?_⟩
    · rw [happly]
      rintro n ⟨⟩
      exact ⟨rfl, Nat.zero_add _⟩
    · rw [happly]
      exact nofun
  · obtain ⟨more, hgrown⟩ := exists_grown_of_ok b a _ 0 _ _ _ hbefore
    rcases hend with ⟨-, hrun⟩ | ⟨old, next, hx, hend⟩
    · -- the component exposed no container
      have hleft := waiting_of_grown (p :: rest) hgrown hrun rfl
        (funext fun k => mid.queues.get_putBack a k (p :: rest))
      obtain ⟨happly, -⟩ := Behaviour.apply_of_recorded hrun
      refine ⟨before, p :: rest, hsplit, hleft, ?_, ?_⟩ <;> rw [happly] <;> exact nofun
    · have hcut : live.queues.get a = before ++ [p] ++ rest := by
        rw [hsplit, List.append_assoc, List.singleton_append]
      have hstep := grown_step b a p old mid
      rcases hend with ⟨e, hs, hrun⟩ | ⟨hs, hrun⟩
      · -- the update refused
        rw [hs] at hstep
        have hleft := waiting_of_grown rest (hgrown.trans hstep) hrun rfl
          (funext fun k => next.queues.get_putBack a k rest)
        obtain ⟨happly, -⟩ := Behaviour.apply_of_recorded hrun
        refine ⟨before ++ [p], rest, hcut, hleft, ?_, ?_⟩ <;> rw [happly] <;> exact nofun
      · -- the update aborted
        have houtcome : (b.run p.update old (mid.map Prod.fst)).outcome = .error .aborted :=
          congrArg Prod.snd hs
        rw [hs] at hstep
        have hleft := waiting_of_grown rest (hgrown.trans hstep) hrun rfl
          (by simp [putBackOf])
        obtain ⟨happly, -⟩ := Behaviour.apply_of_recorded hrun
        have hthrough : Prod.map (Live.map Prod.fst) id
            (replay (b.recording a).expose (b.recording a).step a before 0
              ⟨(live.component, []), live.queues.set a []⟩)
            = replay b.expose b.step a before 0 ⟨live.component, live.queues.set a []⟩ :=
          replay_map Prod.fst (fun _ => rfl) (fun _ _ _ => rfl) a before 0 _
        rw [hbefore, Nat.zero_add] at hthrough
        refine ⟨before ++ [p], rest, hcut, hleft, ?_, ?_⟩
        · rw [happly]
          exact nofun
        · intro _
          exact ⟨before, p, mid.map Prod.fst, old, rfl, hthrough.symm, hx, houtcome⟩

/-- A label whose edits cannot be counted any further, with two changes that wait for it. -/
def fullLabel : Live Component Update where
  component := .label ⟨"", 4294967295⟩
  queues := Queues.empty.set ⟨0, "label"⟩
    [⟨.sync, .command (.append "!")⟩, ⟨.lazy, .command (.overwriteText "?")⟩]

/-- **An update that aborts can cost another.**  The first change of the full label aborts, and the
second is neither made nor still waiting. -/
theorem exists_update_lost :
    ¬ ∀ (a : Address) (live : Live Component Update) before p rest mid old,
      live.queues.get a = before ++ p :: rest →
      replay Update.behaviour.expose Update.behaviour.step a before 0
        ⟨live.component, live.queues.set a []⟩ = (mid, .ok before.length) →
      Update.behaviour.expose mid.component = some old →
      (Update.behaviour.run p.update old mid).outcome = .error .aborted →
      ∃ meanwhile, (applyQueue a live).1.queues.get a = rest ++ meanwhile := by
  intro hkept
  obtain ⟨meanwhile, hwaiting⟩ := hkept ⟨0, "label"⟩ fullLabel [] ⟨.sync, .command (.append "!")⟩
    [⟨.lazy, .command (.overwriteText "?")⟩]
    ⟨fullLabel.component, fullLabel.queues.set ⟨0, "label"⟩ []⟩ (.label ⟨"", 4294967295⟩)
    rfl rfl rfl rfl
  have hgone : (applyQueue ⟨0, "label"⟩ fullLabel).1.queues.get ⟨0, "label"⟩ = [] := rfl
  rw [hgone] at hwaiting
  exact absurd hwaiting nofun

end Carryover.State
