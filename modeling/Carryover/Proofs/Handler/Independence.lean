/-
# Queues do not disturb each other

A handler keeps one queue for each key.  An update may put other updates into any queue, and what it
does may depend on everything that waits.  Updates that do neither are `Local`: they touch only the
container and the component that they are given.  The commands of the known components are such
updates, and all others that hold neither an enqueueing nor a drain
(`Update.local_of_leavesQueues`).

Of a queue of local updates it does not matter which queues are around it
(`exists_replay_of_local`).  So a handler that only local updates are put into looks, at each
address, as if it were used for this address alone.  Two worlds agree at an address if the queue is
the same there and all applications of it gave the same.  Using another address keeps everything as
it was (`agreesAt_use_of_ne`), and using this address keeps agreeing worlds in agreement
(`AgreesAt.use`).  By induction on the usages, those of other addresses can be left out
(`AgreesAt.useAll_filter`), and the order among usages of different addresses does not matter
(`agreesAt_interleaved`).
-/
import Carryover.Proofs.Handler.Behaviour

namespace Carryover.State

variable {γ σ υ : Type}

/-! ## 1. Local updates -/

/-- The update touches only the container and the component that it is given. -/
structure Behaviour.Local (b : Behaviour γ σ υ) (u : υ) : Prop where
  sends_nothing : ∀ old live, (b.run u old live).sent = []
  /-- What else waits makes no difference. -/
  run_eq : ∀ old (live live' : Live γ υ), live.component = live'.component →
    b.run u old live = b.run u old live'

/-- Whether an update leaves all queues alone. -/
def Update.leavesQueues : Update → Bool
  | andThen u v => u.leavesQueues && v.leavesQueues
  | enqueue _ _ _ => false
  | drain _ => false
  | _ => true

/-- A change to the component sends nothing. -/
theorem Effect.sent_ofChange (live : γ) (r : Except StateError (Option γ)) :
    (Effect.ofChange live r : Effect γ υ).sent = [] := by
  match r with
  | .ok (some _) => rfl
  | .ok none => rfl
  | .error _ => rfl

/-- An update that leaves the queues alone sends nothing. -/
theorem Update.sent_effect {u : Update} (h : u.leavesQueues = true) (old : Container)
    (live : Component) : (u.effect old live).sent = [] := by
  induction u generalizing live with
  | command c => exact Effect.sent_ofChange live _
  | addTotal amount => exact Effect.sent_ofChange live _
  | setTotal total => exact Effect.sent_ofChange live _
  | fail e => exact Effect.sent_ofChange live _
  | nothing => rfl
  | andThen u v ihu ihv =>
    obtain ⟨hu, hv⟩ : u.leavesQueues = true ∧ v.leavesQueues = true :=
      Bool.and_eq_true_iff.mp h
    have hfirst := ihu hu live
    unfold Update.effect Effect.andThen
    split
    · simp only [hfirst, ihv hv, List.append_nil]
    · exact hfirst
  | enqueue a mode u => exact absurd h Bool.false_ne_true
  | drain a => exact absurd h Bool.false_ne_true
  | abort => rfl

/-- **The known updates are local unless they hold an enqueueing or a drain.** -/
theorem Update.local_of_leavesQueues {u : Update} (h : u.leavesQueues = true) :
    Update.behaviour.Local u where
  sends_nothing old live := u.sent_effect h old live.component
  run_eq old _ _ hsame := congrArg (u.effect old) hsame

/-- The step of a local update leaves the queues as they are. -/
theorem Behaviour.Local.step_eq {b : Behaviour γ σ υ} {u : υ} (h : b.Local u) (old : σ) (c : γ)
    (q : Queues υ) :
    b.step u old ⟨c, q⟩
      = (⟨(b.run u old ⟨c, .empty⟩).component, q⟩, (b.run u old ⟨c, .empty⟩).outcome) := by
  unfold Behaviour.step Effect.step
  rw [h.run_eq old ⟨c, q⟩ ⟨c, .empty⟩ rfl, h.sends_nothing]
  rfl

/-! ## 2. Queues of local updates -/

/-- **A replay of local updates comes to the same among any queues.**  It leaves the component `c'`
and puts `rest` back. -/
theorem exists_replay_of_local {b : Behaviour γ σ υ} (a : Address) {waiting : List (Pending υ)}
    (h : ∀ p ∈ waiting, b.Local p.update) (applied : Nat) (c : γ) :
    ∃ c' rest outcome, rest ⊆ waiting ∧ ∀ q : Queues υ, ∃ q' : Queues υ,
      replay b.expose b.step a waiting applied ⟨c, q⟩ = (⟨c', q'⟩, outcome) ∧
        ∀ k, q'.get k = (if a = k then rest else []) ++ q.get k := by
  induction waiting generalizing applied c with
  | nil => exact ⟨c, [], .ok applied, List.Subset.refl _, fun q => ⟨q, rfl, fun k => by simp⟩⟩
  | cons p rest ih =>
    obtain ⟨hp, hrest⟩ := List.forall_mem_cons.mp h
    cases hx : b.expose c with
    | none =>
      exact ⟨c, p :: rest, .error (.refused .missingContainer), List.Subset.refl _, fun q =>
        ⟨q.putBack a (p :: rest), replay_cons_of_none hx, fun k => q.get_putBack a k _⟩⟩
    | some old =>
      have hstep := hp.step_eq old c
      match houtcome : (b.run p.update old ⟨c, .empty⟩).outcome with
      | .ok () =>
        obtain ⟨c', back, outcome, hback, hreplay⟩ :=
          ih hrest (applied + 1) (b.run p.update old ⟨c, .empty⟩).component
        refine ⟨c', back, outcome, List.subset_cons_of_subset p hback, fun q => ?_⟩
        obtain ⟨q', hq, hget⟩ := hreplay q
        rw [houtcome] at hstep
        exact ⟨q', (replay_cons_of_ok hx (hstep q)).trans hq, hget⟩
      | .error (.refused e) =>
        rw [houtcome] at hstep
        exact ⟨_, rest, .error (.refused e), List.subset_cons_self p rest, fun q =>
          ⟨q.putBack a rest, replay_cons_of_refused hx (hstep q), fun k => q.get_putBack a k rest⟩⟩
      | .error .aborted =>
        rw [houtcome] at hstep
        exact ⟨_, [], .error .aborted, List.nil_subset _, fun q =>
          ⟨q, replay_cons_of_aborted hx (hstep q), fun k => by simp⟩⟩

/-- **So does applying a queue of local updates**, and the queues around it stay. -/
theorem exists_apply_of_local {b : Behaviour γ σ υ} (a : Address) {waiting : List (Pending υ)}
    (h : ∀ p ∈ waiting, b.Local p.update) (c : γ) :
    ∃ c' rest outcome, rest ⊆ waiting ∧ ∀ q : Queues υ, q.get a = waiting → ∃ q' : Queues υ,
      b.apply a ⟨c, q⟩ = (⟨c', q'⟩, outcome) ∧ q'.get a = rest ∧
        ∀ k, k ≠ a → q'.get k = q.get k := by
  obtain ⟨c', rest, outcome, hrest, hreplay⟩ := exists_replay_of_local a h 0 c
  refine ⟨c', rest, outcome, hrest, ?_⟩
  rintro q rfl
  obtain ⟨q', hq, hget⟩ := hreplay (q.set a [])
  refine ⟨q', hq, ?_, fun k hk => ?_⟩
  · rw [hget, if_pos rfl, Queues.get_set_self, List.append_nil]
  · rw [hget, if_neg (fun e => hk e.symm), Queues.get_set_of_ne q hk, List.nil_append]

/-! ## 3. Worlds -/

/-- What applying a queue gave: the component as it was left, and the outcome. -/
structure Answer (γ : Type) where
  component : γ
  outcome : Except Stop Nat

/-- One use of a handler. -/
inductive Usage (γ υ : Type) where
  | dispatch (a : Address) (p : Pending υ)
  /-- The queue is applied to a component.  It may be one that the queue was applied to before, so
  it is given by the answers so far. -/
  | apply (a : Address) (given : List (Answer γ) → γ)

/-- The address that is used. -/
def Usage.address : Usage γ υ → Address
  | dispatch a _ => a
  | apply a _ => a

/-- Only local updates are put in. -/
def Usage.IsLocal (b : Behaviour γ σ υ) : Usage γ υ → Prop
  | dispatch _ p => b.Local p.update
  | apply _ _ => True

/-- The queues, and what applying them gave so far. -/
structure World (γ υ : Type) where
  queues : Queues υ
  answers : List (Address × Answer γ)

namespace World

/-- Nothing has happened. -/
def empty : World γ υ :=
  ⟨.empty, []⟩

/-- What applying the queue of an address gave so far, in order. -/
def answersAt (w : World γ υ) (a : Address) : List (Answer γ) :=
  w.answers.filterMap fun e => if e.1 = a then some e.2 else none

/-- The world after a usage. -/
def use (b : Behaviour γ σ υ) (w : World γ υ) : Usage γ υ → World γ υ
  | .dispatch a p => { w with queues := w.queues.push a p }
  | .apply a given =>
    let run := b.apply a ⟨given (w.answersAt a), w.queues⟩
    ⟨run.1.queues, w.answers ++ [(a, ⟨run.1.component, run.2⟩)]⟩

theorem use_apply (b : Behaviour γ σ υ) (w : World γ υ) (a : Address)
    (given : List (Answer γ) → γ) :
    w.use b (.apply a given)
      = ⟨(b.apply a ⟨given (w.answersAt a), w.queues⟩).1.queues,
          w.answers ++ [(a, ⟨(b.apply a ⟨given (w.answersAt a), w.queues⟩).1.component,
            (b.apply a ⟨given (w.answersAt a), w.queues⟩).2⟩)]⟩ :=
  rfl

/-- The world after usages, one after the other. -/
def useAll (b : Behaviour γ σ υ) (w : World γ υ) (usages : List (Usage γ υ)) : World γ υ :=
  usages.foldl (use b) w

/-- Only local updates wait. -/
def IsLocal (b : Behaviour γ σ υ) (w : World γ υ) : Prop :=
  ∀ a, ∀ p ∈ w.queues.get a, b.Local p.update

/-- Nothing can be told apart at an address. -/
structure AgreesAt (k : Address) (w w' : World γ υ) : Prop where
  queue_eq : w.queues.get k = w'.queues.get k
  answers_eq : w.answersAt k = w'.answersAt k

variable {b : Behaviour γ σ υ} {w w' : World γ υ} {u : Usage γ υ} {k : Address}

theorem AgreesAt.refl (k : Address) (w : World γ υ) : AgreesAt k w w :=
  ⟨rfl, rfl⟩

theorem AgreesAt.symm (h : AgreesAt k w w') : AgreesAt k w' w :=
  ⟨h.queue_eq.symm, h.answers_eq.symm⟩

theorem AgreesAt.trans {w'' : World γ υ} (h : AgreesAt k w w') (h' : AgreesAt k w' w'') :
    AgreesAt k w w'' :=
  ⟨h.queue_eq.trans h'.queue_eq, h.answers_eq.trans h'.answers_eq⟩

/-- One more answer is one more at its address, and at no other. -/
theorem answersAt_concat (q : Queues υ) (answers : List (Address × Answer γ)) (a : Address)
    (answer : Answer γ) :
    answersAt ⟨q, answers ++ [(a, answer)]⟩ k
      = answersAt ⟨q, answers⟩ k ++ (if a = k then [answer] else []) := by
  unfold answersAt
  rw [List.filterMap_append]
  by_cases h : a = k <;> simp [h]

/-! ## 4. One usage -/

/-- **The usage of another address changes nothing.** -/
theorem agreesAt_use_of_ne (hw : w.IsLocal b) (hu : u.address ≠ k) : AgreesAt k (w.use b u) w := by
  cases u with
  | dispatch a p =>
    have ha : a ≠ k := hu
    exact ⟨by rw [use, Queues.get_push, if_neg ha, List.append_nil], rfl⟩
  | apply a given =>
    have ha : a ≠ k := hu
    obtain ⟨c', rest, outcome, -, happly⟩ :=
      exists_apply_of_local a (hw a) (given (w.answersAt a))
    obtain ⟨q', hq, -, hothers⟩ := happly w.queues rfl
    rw [use_apply, hq]
    refine ⟨hothers k ha.symm, ?_⟩
    rw [answersAt_concat, if_neg ha, List.append_nil]
    rfl

/-- **The usage of an address keeps worlds in agreement there.** -/
theorem AgreesAt.use (h : AgreesAt k w w') (hw : w.IsLocal b) (hu : u.address = k) :
    AgreesAt k (w.use b u) (w'.use b u) := by
  cases u with
  | dispatch a p =>
    refine ⟨?_, h.answers_eq⟩
    rw [World.use, World.use, Queues.get_push, Queues.get_push, h.queue_eq]
  | apply a given =>
    obtain rfl : a = k := hu
    obtain ⟨c', rest, outcome, -, happly⟩ :=
      exists_apply_of_local a (hw a) (given (w.answersAt a))
    obtain ⟨q, hq, hback, -⟩ := happly w.queues rfl
    obtain ⟨q', hq', hback', -⟩ := happly w'.queues h.queue_eq.symm
    rw [use_apply, use_apply, ← h.answers_eq, hq, hq']
    refine ⟨hback.trans hback'.symm, ?_⟩
    rw [answersAt_concat, answersAt_concat]
    exact congrArg (· ++ _) h.answers_eq

/-- Only local updates wait after a usage that puts in no others. -/
theorem IsLocal.use (hw : w.IsLocal b) (hu : u.IsLocal b) : (w.use b u).IsLocal b := by
  intro k p hp
  cases u with
  | dispatch a sent =>
    rw [World.use, Queues.get_push] at hp
    rcases List.mem_append.mp hp with hp | hp
    · exact hw k p hp
    · obtain ⟨-, hmem⟩ := List.mem_ite_nil_right.mp hp
      obtain rfl := List.mem_singleton.mp hmem
      exact hu
  | apply a given =>
    obtain ⟨c', rest, outcome, hrest, happly⟩ :=
      exists_apply_of_local a (hw a) (given (w.answersAt a))
    obtain ⟨q', hq, hback, hothers⟩ := happly w.queues rfl
    rw [use_apply, hq] at hp
    by_cases hk : k = a
    · subst hk
      rw [hback] at hp
      exact hw k p (hrest hp)
    · rw [hothers k hk] at hp
      exact hw k p hp

/-! ## 5. All usages -/

/-- **The usages of other addresses can be left out.** -/
theorem AgreesAt.useAll_filter {usages : List (Usage γ υ)} (h : AgreesAt k w w')
    (hw : w.IsLocal b) (husages : ∀ u ∈ usages, u.IsLocal b) :
    AgreesAt k (w.useAll b usages) (w'.useAll b (usages.filter (·.address = k))) := by
  induction usages generalizing w w' with
  | nil => exact h
  | cons u usages ih =>
    obtain ⟨hu, hrest⟩ := List.forall_mem_cons.mp husages
    have hnext : (w.use b u).IsLocal b := hw.use hu
    by_cases hk : u.address = k
    · rw [List.filter_cons_of_pos (by simpa using hk)]
      exact ih (h.use hw hk) hnext hrest
    · rw [List.filter_cons_of_neg (by simpa using hk)]
      exact ih ((agreesAt_use_of_ne hw hk).trans h) hnext hrest

/-- Nothing waits in the beginning. -/
theorem isLocal_empty : (empty : World γ υ).IsLocal b :=
  fun _ _ hp => absurd hp List.not_mem_nil

/-- **Queues do not disturb each other.**  If only local updates are put into a handler's queues,
then at each address the queue and the answers are what the usages of this address alone come to.  So
they are the same for usages in another order, if the order at each address is the same. -/
theorem agreesAt_interleaved (b : Behaviour γ σ υ) (usages : List (Usage γ υ))
    (h : ∀ u ∈ usages, u.IsLocal b) :
    (∀ k, AgreesAt k (empty.useAll b usages) (empty.useAll b (usages.filter (·.address = k)))) ∧
    ∀ others : List (Usage γ υ),
      (∀ k, others.filter (·.address = k) = usages.filter (·.address = k)) →
        ∀ k, AgreesAt k (empty.useAll b others) (empty.useAll b usages) := by
  have halone : ∀ {usages : List (Usage γ υ)}, (∀ u ∈ usages, u.IsLocal b) → ∀ k,
      AgreesAt k (empty.useAll b usages) (empty.useAll b (usages.filter (·.address = k))) :=
    fun hlocal k => (AgreesAt.refl k empty).useAll_filter isLocal_empty hlocal
  refine ⟨halone h, fun others hsame k => ?_⟩
  have hothers : ∀ u ∈ others, u.IsLocal b := by
    intro u hu
    have hmem : u ∈ others.filter (·.address = u.address) :=
      List.mem_filter.mpr ⟨hu, decide_eq_true rfl⟩
    rw [hsame] at hmem
    exact h u (List.mem_filter.mp hmem).1
  have hfiltered := halone hothers k
  rw [hsame k] at hfiltered
  exact hfiltered.trans (halone h k).symm

end World

/-- A counter and a label of one handler.  The counter's second update refuses and the third goes
back; the label's queue meets a component without a container first.  Then both queues are applied to
what is left. -/
def counterBesideLabel : List (Usage Component Update) :=
  let counter : Address := ⟨0, "counter"⟩
  let label : Address := ⟨0, "label"⟩
  [.dispatch counter ⟨.sync, .command (.increment 2)⟩,
    .dispatch label ⟨.async, .command (.append "a")⟩,
    .dispatch counter ⟨.sync, .fail .missingContainer⟩,
    .apply label fun _ => .badge,
    .dispatch counter ⟨.sync, .command (.increment 3)⟩,
    .apply counter fun _ => .counter ⟨0⟩,
    .apply label fun _ => .label ⟨"", 0⟩,
    .dispatch label ⟨.lazy, .command (.overwriteText "b")⟩,
    .apply counter fun before => (before.getLast?.map (·.component)).getD (.counter ⟨0⟩)]

/-- The counter ends with its two increments and the label with one overwrite in its queue, as they do
without each other. -/
theorem agreesAt_counterBesideLabel :
    let w := World.empty.useAll Update.behaviour counterBesideLabel
    w.answersAt ⟨0, "counter"⟩ = [⟨.counter ⟨2⟩, .error (.refused .missingContainer)⟩,
      ⟨.counter ⟨5⟩, .ok 1⟩] ∧
    w.queues.get ⟨0, "label"⟩ = [⟨.lazy, .command (.overwriteText "b")⟩] ∧
    ∀ k, World.AgreesAt k w
      (World.empty.useAll Update.behaviour (counterBesideLabel.filter (·.address = k))) := by
  have hlocal : ∀ u ∈ counterBesideLabel, u.IsLocal Update.behaviour := by
    unfold counterBesideLabel
    simp only [List.forall_mem_cons, Usage.IsLocal, true_and]
    refine ⟨?_, ?_, ?_, ?_, ?_, nofun⟩
    all_goals exact Update.local_of_leavesQueues rfl
  exact ⟨rfl, rfl, (World.agreesAt_interleaved Update.behaviour counterBesideLabel hlocal).1⟩

end Carryover.State
