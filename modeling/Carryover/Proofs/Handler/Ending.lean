/-
# Where a run ends

Applying a queue runs its updates in order, each on the container that the component shows by then,
and stops at the first that does not go through.  `Through` says of updates that they all go
through, and `Ending` lists the ways in which a run can end: with the last update, before one that
finds no container, at one that refuses, at one that aborts.  Every run has an ending
(`exists_ending`), and the ending says what the run comes to (`Ending.replay_eq`).

What an update itself does to queues is kept apart.  It can reach them in two ways: it puts updates
in, and it has queues applied while it is run.  `Doings` are a list of either, and they *explain* a
change of the queues if nothing waits afterwards but what waited before or was put in meanwhile, in
this order, and if at the addresses that were not applied all of it still waits.  In a `Conduct`
every step is explained by its doings.  Then so is a run (`Conduct.explains_run`), and so is applying
a queue (`Conduct.explains_apply`); hence by induction on the depth the known updates are a conduct
as well, also those that hold drains (`Update.conduct`).

`apply_ends_at_first_failure` puts the two together.  No more can be said of other queues than that
updates of the run may have applied them: `exists_queue_emptied`.
-/
import Carryover.Proofs.Handler.Behaviour

namespace Carryover.State

variable {γ σ υ : Type}

/-! ## 1. Endings -/

section Endings

/-- The updates go through, one after the other.  Before each the component shows a container, which
is what the update reads. -/
inductive Through (expose : γ → Option σ) (step : υ → σ → Live γ υ → Step γ υ) :
    List (Pending υ) → Live γ υ → Live γ υ → Prop where
  | nil (live : Live γ υ) : Through expose step [] live live
  | cons {p : Pending υ} {rest : List (Pending υ)} {live next last : Live γ υ} {old : σ}
      (shown : expose live.component = some old) (passed : step p.update old live = (next, .ok ()))
      (behind : Through expose step rest next last) : Through expose step (p :: rest) live last

/-- How a run of waiting updates ends: what the updates leave, the outcome, and what goes back. -/
inductive Ending (expose : γ → Option σ) (step : υ → σ → Live γ υ → Step γ υ) :
    List (Pending υ) → Live γ υ → Live γ υ → Except Stop Nat → List (Pending υ) → Prop where
  /-- All go through, and they are counted. -/
  | through {waiting : List (Pending υ)} {live last : Live γ υ}
      (all : Through expose step waiting live last) :
      Ending expose step waiting live last (.ok waiting.length) []
  /-- Before one of them the component shows no container.  It goes back with those behind it. -/
  | bare {before rest : List (Pending υ)} {p : Pending υ} {live mid : Live γ υ}
      (passed : Through expose step before live mid) (hidden : expose mid.component = none) :
      Ending expose step (before ++ p :: rest) live mid (.error (.refused .missingContainer))
        (p :: rest)
  /-- One of them refuses.  It is gone, what it did stays, and those behind it go back. -/
  | refused {before rest : List (Pending υ)} {p : Pending υ} {live mid next : Live γ υ} {old : σ}
      {e : StateError} (passed : Through expose step before live mid)
      (shown : expose mid.component = some old)
      (failed : step p.update old mid = (next, .error (.refused e))) :
      Ending expose step (before ++ p :: rest) live next (.error (.refused e)) rest
  /-- One of them aborts.  Those behind it are gone too. -/
  | aborted {before rest : List (Pending υ)} {p : Pending υ} {live mid next : Live γ υ} {old : σ}
      (passed : Through expose step before live mid) (shown : expose mid.component = some old)
      (failed : step p.update old mid = (next, .error .aborted)) :
      Ending expose step (before ++ p :: rest) live next (.error .aborted) []

variable {expose : γ → Option σ} {step : υ → σ → Live γ υ → Step γ υ}
  {before waiting back : List (Pending υ)} {p : Pending υ} {live mid next left : Live γ υ}
  {old : σ} {outcome : Except Stop Nat}

/-- What goes back is the end of what was taken. -/
theorem Ending.back_suffix (h : Ending expose step waiting live left outcome back) :
    back <:+ waiting := by
  cases h with
  | through all => exact List.nil_suffix
  | bare passed hidden => exact List.suffix_append _ _
  | @refused _ _ p =>
    exact (List.suffix_cons p back).trans (List.suffix_append _ _)
  | aborted passed shown failed => exact List.nil_suffix

/-- An ending of the updates behind one that goes through is an ending with it in front. -/
theorem Ending.cons (hx : expose live.component = some old)
    (hs : step p.update old live = (next, .ok ()))
    (h : Ending expose step waiting next left outcome back) :
    ∃ outcome', Ending expose step (p :: waiting) live left outcome' back := by
  cases h with
  | through all => exact ⟨_, .through (.cons hx hs all)⟩
  | bare passed hidden => exact ⟨_, .bare (.cons hx hs passed) hidden⟩
  | refused passed shown failed => exact ⟨_, .refused (.cons hx hs passed) shown failed⟩
  | aborted passed shown failed => exact ⟨_, .aborted (.cons hx hs passed) shown failed⟩

/-- **Every run ends.** -/
theorem exists_ending (expose : γ → Option σ) (step : υ → σ → Live γ υ → Step γ υ)
    (waiting : List (Pending υ)) (live : Live γ υ) :
    ∃ left outcome back, Ending expose step waiting live left outcome back := by
  induction waiting generalizing live with
  | nil => exact ⟨live, _, [], .through (.nil live)⟩
  | cons p rest ih =>
    cases hx : expose live.component with
    | none => exact ⟨live, _, p :: rest, .bare (.nil live) hx⟩
    | some old =>
      match hs : step p.update old live with
      | (next, .ok ()) =>
        obtain ⟨left, outcome, back, hrest⟩ := ih next
        obtain ⟨outcome', hall⟩ := hrest.cons hx hs
        exact ⟨left, outcome', back, hall⟩
      | (next, .error (.refused e)) => exact ⟨next, _, rest, .refused (.nil live) hx hs⟩
      | (next, .error .aborted) => exact ⟨next, _, [], .aborted (.nil live) hx hs⟩

/-- A replay goes on behind updates that go through. -/
theorem Through.replay_append (h : Through expose step before live mid) (a : Address)
    (rest : List (Pending υ)) (applied : Nat) :
    replay expose step a (before ++ rest) applied live
      = replay expose step a rest (applied + before.length) mid := by
  induction h generalizing applied with
  | nil live => rfl
  | cons shown passed behind ih =>
    rw [List.cons_append, replay_cons_of_ok shown passed, ih, List.length_cons,
      Nat.add_right_comm, Nat.add_assoc]

/-- **A run comes to what its ending says.** -/
theorem Ending.replay_eq (h : Ending expose step waiting live left outcome back) (a : Address) :
    (replay expose step a waiting 0 live).1.component = left.component ∧
    (replay expose step a waiting 0 live).2 = outcome ∧
    ∀ k, (replay expose step a waiting 0 live).1.queues.get k
      = (if a = k then back else []) ++ left.queues.get k := by
  cases h with
  | through all =>
    have hall := all.replay_append a [] 0
    rw [List.append_nil, Nat.zero_add] at hall
    rw [hall]
    exact ⟨rfl, rfl, fun k => by simp [replay]⟩
  | bare passed hidden =>
    rw [passed.replay_append, replay_cons_of_none hidden]
    exact ⟨rfl, rfl, fun k => Queues.get_putBack _ a k _⟩
  | refused passed shown failed =>
    rw [passed.replay_append, replay_cons_of_refused shown failed]
    exact ⟨rfl, rfl, fun k => Queues.get_putBack _ a k _⟩
  | aborted passed shown failed =>
    rw [passed.replay_append, replay_cons_of_aborted shown failed]
    exact ⟨rfl, rfl, fun k => by simp⟩

end Endings

/-! ## 2. What updates do to queues -/

/-- What is done to queues: updates put in, oldest first, and queues applied. -/
structure Doings (υ : Type) where
  sent : List (Address × Pending υ)
  applied : List Address

namespace Doings

/-- Nothing is done. -/
def none : Doings υ :=
  ⟨[], []⟩

/-- One after the other. -/
def andThen (d d' : Doings υ) : Doings υ :=
  ⟨d.sent ++ d'.sent, d.applied ++ d'.applied⟩

/-- The doings account for a change of the queues. -/
structure Explains (d : Doings υ) (q q' : Queues υ) : Prop where
  /-- Nothing waits but what waited or was put in, in this order. -/
  sublist : ∀ k, (q'.get k).Sublist (q.get k ++ sentTo k d.sent)
  /-- And all of it, where no queue was applied. -/
  get_eq : ∀ k, k ∉ d.applied → q'.get k = q.get k ++ sentTo k d.sent

/-- What two lists send is what they send together. -/
theorem sentTo_append (a : Address) (sent more : List (Address × Pending υ)) :
    sentTo a (sent ++ more) = sentTo a sent ++ sentTo a more :=
  List.filterMap_append

theorem andThen_none (d : Doings υ) : d.andThen none = d := by
  simp [andThen, none]

theorem andThen_assoc (d d' d'' : Doings υ) :
    (d.andThen d').andThen d'' = d.andThen (d'.andThen d'') := by
  simp [andThen]

theorem none_andThen (d : Doings υ) : none.andThen d = d := by
  simp [andThen, none]

/-- Nothing is changed by nothing. -/
theorem explains_none (q : Queues υ) : none.Explains q q where
  sublist k := by simp [none, sentTo]
  get_eq k _ := by simp [none, sentTo]

/-- An update is put in. -/
theorem explains_push (q : Queues υ) (a : Address) (p : Pending υ) :
    Explains ⟨[(a, p)], []⟩ q (q.push a p) where
  sublist k := by
    rw [← q.get_pushAll [(a, p)] k]
    exact List.Sublist.refl _
  get_eq k _ := q.get_pushAll [(a, p)] k

/-- **Explanations add up.** -/
theorem Explains.andThen {d d' : Doings υ} {q q' q'' : Queues υ} (h : d.Explains q q')
    (h' : d'.Explains q' q'') : (d.andThen d').Explains q q'' where
  sublist k := by
    have hsent : sentTo k (d.andThen d').sent = sentTo k d.sent ++ sentTo k d'.sent :=
      sentTo_append k d.sent d'.sent
    rw [hsent, ← List.append_assoc]
    exact (h'.sublist k).trans ((h.sublist k).append_right _)
  get_eq k hk := by
    have hsent : sentTo k (d.andThen d').sent = sentTo k d.sent ++ sentTo k d'.sent :=
      sentTo_append k d.sent d'.sent
    obtain ⟨hd, hd'⟩ : k ∉ d.applied ∧ k ∉ d'.applied := by
      simpa [Doings.andThen] using hk
    rw [hsent, h'.get_eq k hd', h.get_eq k hd, List.append_assoc]

end Doings

/-- The doings of a run of waiting updates are those of the updates that it comes to. -/
def replayDoings (expose : γ → Option σ) (step : υ → σ → Live γ υ → Step γ υ)
    (doings : υ → σ → Live γ υ → Doings υ) : List (Pending υ) → Live γ υ → Doings υ
  | [], _ => .none
  | p :: rest, live =>
    match expose live.component with
    | none => .none
    | some old =>
      match step p.update old live with
      | (next, .ok ()) =>
        (doings p.update old live).andThen (replayDoings expose step doings rest next)
      | (_, .error _) => doings p.update old live

/-- The doings of applying the queue of an address, apart from taking it. -/
def takenDoings (expose : γ → Option σ) (step : υ → σ → Live γ υ → Step γ υ)
    (doings : υ → σ → Live γ υ → Doings υ) (a : Address) (live : Live γ υ) : Doings υ :=
  replayDoings expose step doings (live.queues.get a) { live with queues := live.queues.set a [] }

/-! ## 3. Conducts -/

/-- Components and updates of any kind, with what the updates do to queues. -/
structure Conduct (γ σ υ : Type) where
  expose : γ → Option σ
  step : υ → σ → Live γ υ → Step γ υ
  doings : υ → σ → Live γ υ → Doings υ
  /-- An update changes queues by its doings and in no other way. -/
  explains : ∀ u old live, (doings u old live).Explains live.queues (step u old live).1.queues

namespace Conduct

variable {b : Conduct γ σ υ} {before waiting back : List (Pending υ)} {live mid left : Live γ υ}
  {outcome : Except Stop Nat}

/-- The run of the queue of an address. -/
def apply (b : Conduct γ σ υ) (a : Address) (live : Live γ υ) : Run γ υ :=
  takeAndReplay b.expose b.step a live

/-- What the updates do while the queue of an address is applied. -/
def meanwhile (b : Conduct γ σ υ) (a : Address) (live : Live γ υ) : Doings υ :=
  takenDoings b.expose b.step b.doings a live

/-- The run of the queue of an address ends so. -/
def Ends (b : Conduct γ σ υ) (a : Address) (live left : Live γ υ) (outcome : Except Stop Nat)
    (back : List (Pending υ)) : Prop :=
  Ending b.expose b.step (live.queues.get a) { live with queues := live.queues.set a [] } left
    outcome back

/-- What updates do that go through is done in front of what those behind them do. -/
theorem exists_explains_of_through (h : Through b.expose b.step before live mid) :
    ∃ d : Doings υ, d.Explains live.queues mid.queues ∧
      ∀ rest, replayDoings b.expose b.step b.doings (before ++ rest) live
        = d.andThen (replayDoings b.expose b.step b.doings rest mid) := by
  induction h with
  | nil live => exact ⟨.none, Doings.explains_none _, fun rest => (Doings.none_andThen _).symm⟩
  | @cons p rest live next last old shown passed behind ih =>
    obtain ⟨d, hd, hrest⟩ := ih
    have hfirst := b.explains p.update old live
    rw [passed] at hfirst
    refine ⟨_, hfirst.andThen hd, fun more => ?_⟩
    rw [List.cons_append, replayDoings, shown]
    simp only [passed, hrest, Doings.andThen_assoc]

/-- **The doings of a run explain what its updates leave.** -/
theorem explains_run (h : Ending b.expose b.step waiting live left outcome back) :
    (replayDoings b.expose b.step b.doings waiting live).Explains live.queues left.queues := by
  cases h with
  | through all =>
    obtain ⟨d, hd, hrest⟩ := exists_explains_of_through all
    have hall := hrest []
    rw [List.append_nil, replayDoings, Doings.andThen_none] at hall
    rw [hall]
    exact hd
  | bare passed hidden =>
    obtain ⟨d, hd, hrest⟩ := exists_explains_of_through passed
    rw [hrest, replayDoings, hidden, Doings.andThen_none]
    exact hd
  | @refused _ _ p _ mid _ old _ passed shown failed =>
    obtain ⟨d, hd, hrest⟩ := exists_explains_of_through passed
    have hlast := b.explains p.update old mid
    rw [failed] at hlast
    rw [hrest, replayDoings, shown]
    simp only [failed]
    exact hd.andThen hlast
  | @aborted _ _ p _ mid _ old passed shown failed =>
    obtain ⟨d, hd, hrest⟩ := exists_explains_of_through passed
    have hlast := b.explains p.update old mid
    rw [failed] at hlast
    rw [hrest, replayDoings, shown]
    simp only [failed]
    exact hd.andThen hlast

/-- **The queues after a run**: in its own what went back stands before what was put in meanwhile,
and of another only what was put in is new. -/
theorem waiting_of_ends {a : Address} (h : b.Ends a live left outcome back) :
    (∃ newer : List (Pending υ), newer.Sublist (sentTo a (b.meanwhile a live).sent) ∧
      (a ∉ (b.meanwhile a live).applied → newer = sentTo a (b.meanwhile a live).sent) ∧
      (b.apply a live).1.queues.get a = back ++ newer) ∧
    ∀ k, k ≠ a →
      ((b.apply a live).1.queues.get k).Sublist
        (live.queues.get k ++ sentTo k (b.meanwhile a live).sent) ∧
      (k ∉ (b.meanwhile a live).applied →
        (b.apply a live).1.queues.get k
          = live.queues.get k ++ sentTo k (b.meanwhile a live).sent) := by
  have hrun : (b.meanwhile a live).Explains (live.queues.set a []) left.queues := explains_run h
  obtain ⟨-, -, hget⟩ := h.replay_eq a
  refine ⟨⟨left.queues.get a, ?_, fun ha => ?_, ?_⟩, fun k hk => ?_⟩
  · simpa using hrun.sublist a
  · simpa using hrun.get_eq a ha
  · exact (hget a).trans (by rw [if_pos rfl])
  · have hleft : (b.apply a live).1.queues.get k = left.queues.get k :=
      (hget k).trans (by rw [if_neg fun e => hk e.symm, List.nil_append])
    have hsublist := hrun.sublist k
    have heq := hrun.get_eq k
    simp only [Queues.get_set_of_ne live.queues hk] at hsublist heq
    rw [hleft]
    exact ⟨hsublist, heq⟩

/-- A component without a container keeps all queues as they are. -/
theorem apply_of_hidden {b : Conduct γ σ υ} {live : Live γ υ} (a : Address)
    (h : b.expose live.component = none) :
    (b.apply a live).1.component = live.component ∧
    (∀ k, (b.apply a live).1.queues.get k = live.queues.get k) ∧
    (b.apply a live).2
      = if live.queues.get a = [] then .ok 0 else .error (.refused .missingContainer) := by
  unfold apply takeAndReplay
  cases hq : live.queues.get a with
  | nil =>
    refine ⟨rfl, fun k => ?_, rfl⟩
    by_cases hk : k = a
    · subst hk
      exact (live.queues.get_set_self k []).trans hq.symm
    · exact live.queues.get_set_of_ne hk []
  | cons p rest =>
    have hhidden : b.expose (Live.mk live.component (live.queues.set a [])).component = none := h
    rw [replay_cons_of_none hhidden]
    refine ⟨rfl, fun k => ?_, rfl⟩
    rw [Queues.get_putBack]
    by_cases hk : k = a
    · subst hk
      rw [if_pos rfl, Queues.get_set_self, List.append_nil, hq]
    · rw [if_neg fun e => hk e.symm, Queues.get_set_of_ne live.queues hk, List.nil_append]

/-- **What went back can be applied later.**  If nothing was put in meanwhile, a component on which
it all goes through takes it up where the run ended. -/
theorem apply_again {a : Address} (h : b.Ends a live left outcome back)
    (hsent : sentTo a (b.meanwhile a live).sent = []) {c : γ} {last : Live γ υ}
    (hagain : Through b.expose b.step back ⟨c, (b.apply a live).1.queues.set a []⟩ last) :
    b.Ends a ⟨c, (b.apply a live).1.queues⟩ last (.ok back.length) [] := by
  obtain ⟨⟨newer, hnewer, -, hown⟩, -⟩ := waiting_of_ends h
  rw [hsent] at hnewer
  have hback : (b.apply a live).1.queues.get a = back := by
    rw [hown, List.sublist_nil.mp hnewer, List.append_nil]
  unfold Ends
  rw [hback]
  exact .through hagain

/-- **So applying a queue is explained** by what the updates do meanwhile, and by its being
applied. -/
theorem explains_apply (b : Conduct γ σ υ) (a : Address) (live : Live γ υ) :
    Doings.Explains ⟨(b.meanwhile a live).sent, a :: (b.meanwhile a live).applied⟩ live.queues
      (b.apply a live).1.queues := by
  obtain ⟨left, outcome, back, hends⟩ := exists_ending b.expose b.step (live.queues.get a)
    { live with queues := live.queues.set a [] }
  obtain ⟨⟨newer, hnewer, -, hown⟩, hothers⟩ := waiting_of_ends hends
  refine ⟨fun k => ?_, fun k hk => ?_⟩
  · by_cases hk : k = a
    · subst hk
      rw [hown]
      exact hends.back_suffix.sublist.append hnewer
    · exact (hothers k hk).1
  · obtain ⟨hka, hrest⟩ := not_or.mp (mt List.mem_cons.mpr hk)
    exact (hothers k hka).2 hrest

end Conduct

/-! ## 4. The updates that are known here -/

/-- What an update does to queues; `nestedDoings` is what is done when it has a queue applied. -/
def Update.doings (nested : Address → Live Component Update → Run Component Update)
    (nestedDoings : Address → Live Component Update → Doings Update) :
    Update → Container → Live Component Update → Doings Update
  | enqueue a mode u, _, _ => ⟨[(a, ⟨mode, u⟩)], []⟩
  | drain a, _, live => nestedDoings a live
  | andThen u v, old, live =>
    match u.run nested old live with
    | (next, .ok ()) =>
      (u.doings nested nestedDoings old live).andThen (v.doings nested nestedDoings old next)
    | (_, .error _) => u.doings nested nestedDoings old live
  | _, _, _ => .none

/-- What is done when a queue is applied, with runs nested up to a depth. -/
def doingsWithin : Nat → Address → Live Component Update → Doings Update
  | 0, _, _ => .none
  | depth + 1, a, live =>
    let done := takenDoings Component.container? (Update.run (applyWithin depth))
      (Update.doings (applyWithin depth) (doingsWithin depth)) a live
    ⟨done.sent, a :: done.applied⟩

/-- A change to the component alone leaves the queues. -/
theorem Live.queues_change (live : Live Component Update)
    (r : Except StateError (Option Component)) : (live.change r).1.queues = live.queues := by
  match r with
  | .ok (some _) => rfl
  | .ok none => rfl
  | .error _ => rfl

/-- **An update changes queues by its doings alone**, if nested runs do. -/
theorem Update.explains_doings
    {nested : Address → Live Component Update → Run Component Update}
    {nestedDoings : Address → Live Component Update → Doings Update}
    (h : ∀ a live, (nestedDoings a live).Explains live.queues (nested a live).1.queues)
    (u : Update) (old : Container) (live : Live Component Update) :
    (u.doings nested nestedDoings old live).Explains live.queues
      (u.run nested old live).1.queues := by
  have hchange : ∀ (live : Live Component Update) r,
      Doings.none.Explains live.queues (live.change r).1.queues := by
    intro live r
    rw [Live.queues_change]
    exact Doings.explains_none _
  induction u generalizing live with
  | command c => exact hchange live _
  | addTotal amount => exact hchange live _
  | setTotal total => exact hchange live _
  | fail e => exact hchange live _
  | nothing => exact Doings.explains_none _
  | andThen u v ihu ihv =>
    have hfirst := ihu live
    rw [Update.doings, Update.run]
    match hs : u.run nested old live with
    | (next, .ok ()) =>
      rw [hs] at hfirst
      exact hfirst.andThen (ihv next)
    | (next, .error _) =>
      rw [hs] at hfirst
      exact hfirst
  | enqueue a mode u => exact Doings.explains_push live.queues a ⟨mode, u⟩
  | drain a => exact h a live
  | abort => exact Doings.explains_none _

/-- **Nested runs change queues by their doings alone**, at every depth. -/
theorem explains_doingsWithin (depth : Nat) (a : Address) (live : Live Component Update) :
    (doingsWithin depth a live).Explains live.queues (applyWithin depth a live).1.queues := by
  induction depth generalizing a live with
  | zero => exact Doings.explains_none _
  | succ depth ih =>
    let conduct : Conduct Component Container Update :=
      ⟨Component.container?, Update.run (applyWithin depth),
        Update.doings (applyWithin depth) (doingsWithin depth), Update.explains_doings ih⟩
    exact conduct.explains_apply a live

/-- The conduct of the components and updates that are known here, with runs nested up to a depth. -/
def Update.conduct (depth : Nat) : Conduct Component Container Update where
  expose := Component.container?
  step := Update.run (applyWithin depth)
  doings := Update.doings (applyWithin depth) (doingsWithin depth)
  explains := Update.explains_doings (explains_doingsWithin depth)

/-- **The run of a queue is the run of a conduct**, whatever the updates hold. -/
theorem applyQueue_eq_conduct (a : Address) (live : Live Component Update) :
    applyQueue a live = (Update.conduct live.queues.drains).apply a live :=
  rfl

/-! ## 5. The law -/

/-- **A run stops at the first failure.**  It ends in one of the ways of `Ending`, and whichever it is
says what the run comes to: the component is as the updates left it that were run, and in the queue
what went back stands before what was put in meanwhile.  If nothing was, applying the queue again to
a component on which the rest goes through runs exactly the rest.  On a component without a container
nothing happens, and the run goes through if nothing waited.  The other queues hold what they held
and what was put into them, unless an update of the run applied them itself; also then they hold
nothing else, and this in its order. -/
theorem apply_ends_at_first_failure (b : Conduct γ σ υ) (a : Address) (live : Live γ υ) :
    (∃ left outcome back, b.Ends a live left outcome back) ∧
    (∀ left outcome back, b.Ends a live left outcome back →
      (b.apply a live).1.component = left.component ∧ (b.apply a live).2 = outcome ∧
      (∃ newer : List (Pending υ), newer.Sublist (sentTo a (b.meanwhile a live).sent) ∧
        (a ∉ (b.meanwhile a live).applied → newer = sentTo a (b.meanwhile a live).sent) ∧
        (b.apply a live).1.queues.get a = back ++ newer) ∧
      (sentTo a (b.meanwhile a live).sent = [] → ∀ c last,
        Through b.expose b.step back ⟨c, (b.apply a live).1.queues.set a []⟩ last →
        let again : Live γ υ := ⟨c, (b.apply a live).1.queues⟩
        (b.apply a again).1.component = last.component ∧
        (b.apply a again).2 = .ok back.length ∧
        ((b.apply a again).1.queues.get a).Sublist (sentTo a (b.meanwhile a again).sent))) ∧
    (b.expose live.component = none →
      (b.apply a live).1.component = live.component ∧
      (∀ k, (b.apply a live).1.queues.get k = live.queues.get k) ∧
      (b.apply a live).2
        = if live.queues.get a = [] then .ok 0 else .error (.refused .missingContainer)) ∧
    ∀ k, k ≠ a →
      ((b.apply a live).1.queues.get k).Sublist
        (live.queues.get k ++ sentTo k (b.meanwhile a live).sent) ∧
      (k ∉ (b.meanwhile a live).applied →
        (b.apply a live).1.queues.get k
          = live.queues.get k ++ sentTo k (b.meanwhile a live).sent) := by
  have hends : ∃ left outcome back, b.Ends a live left outcome back := exists_ending _ _ _ _
  refine ⟨hends, fun left outcome back h => ?_, Conduct.apply_of_hidden a, ?_⟩
  · obtain ⟨hcomponent, houtcome, -⟩ := h.replay_eq a
    refine ⟨hcomponent, houtcome, (Conduct.waiting_of_ends h).1, fun hsent c last hagain => ?_⟩
    have h' := Conduct.apply_again h hsent hagain
    obtain ⟨hcomponent', houtcome', -⟩ := h'.replay_eq a
    obtain ⟨⟨newer, hnewer, -, hown⟩, -⟩ := Conduct.waiting_of_ends h'
    refine ⟨hcomponent', houtcome', ?_⟩
    rw [hown]
    exact hnewer
  · obtain ⟨left, outcome, back, h⟩ := hends
    exact (Conduct.waiting_of_ends h).2

/-- A tally with three updates.  The first has another queue applied, which holds one; the second
puts an update in and writes a total before it refuses; the third is not come to. -/
def refusalBeforeLast : Live Component Update where
  component := .tally ⟨0⟩
  queues := (Queues.empty.set ⟨0, "other"⟩ [⟨.sync, .addTotal 1⟩]).set ⟨0, "sums"⟩
    [⟨.sync, .drain ⟨0, "other"⟩⟩,
      ⟨.sync, .andThen (.enqueue ⟨0, "sums"⟩ .lazy .nothing)
        (.andThen (.setTotal 7) (.fail .missingContainer))⟩,
      ⟨.async, .addTotal 2⟩]

/-- The third update waits, and what the second wrote stays. -/
theorem waiting_after_refusalBeforeLast : ∃ newer : List (Pending Update),
    newer.Sublist [⟨.lazy, .nothing⟩] ∧
    (applyQueue ⟨0, "sums"⟩ refusalBeforeLast).1.component = .tally ⟨7⟩ ∧
    (applyQueue ⟨0, "sums"⟩ refusalBeforeLast).2 = .error (.refused .missingContainer) ∧
    (applyQueue ⟨0, "sums"⟩ refusalBeforeLast).1.queues.get ⟨0, "sums"⟩
      = ⟨.async, .addTotal 2⟩ :: newer := by
  let b := Update.conduct 1
  let start : Live Component Update :=
    ⟨.tally ⟨0⟩, refusalBeforeLast.queues.set ⟨0, "sums"⟩ []⟩
  let first : Pending Update := ⟨.sync, .drain ⟨0, "other"⟩⟩
  let mid := (b.step first.update (.tally ⟨0⟩) start).1
  have hpassed : Through b.expose b.step [first] start mid :=
    .cons (rfl : b.expose start.component = some (.tally ⟨0⟩)) rfl (.nil mid)
  have hshown : b.expose mid.component = some (.tally ⟨1⟩) := rfl
  have hends : b.Ends ⟨0, "sums"⟩ refusalBeforeLast _ (.error (.refused .missingContainer))
      [⟨.async, .addTotal 2⟩] :=
    Ending.refused hpassed hshown rfl
  obtain ⟨hcomponent, houtcome, ⟨newer, hnewer, -, hown⟩, -⟩ :=
    (apply_ends_at_first_failure (Update.conduct 1) ⟨0, "sums"⟩ refusalBeforeLast).2.1 _ _ _ hends
  exact ⟨newer, hnewer, hcomponent, houtcome, hown⟩

/-- **An update can empty another queue.**  It has the queue applied while it is run itself. -/
theorem exists_queue_emptied :
    ¬ ∀ (a k : Address) (live : Live Component Update), k ≠ a →
      ∃ sent, (applyQueue a live).1.queues.get k = live.queues.get k ++ sent := by
  intro hkept
  let live : Live Component Update :=
    ⟨.tally ⟨0⟩, (Queues.empty.set ⟨0, "a"⟩ [⟨.sync, .drain ⟨0, "b"⟩⟩]).set ⟨0, "b"⟩
      [⟨.sync, .addTotal 1⟩]⟩
  obtain ⟨sent, hsent⟩ := hkept ⟨0, "a"⟩ ⟨0, "b"⟩ live (by decide)
  have hgone : (applyQueue ⟨0, "a"⟩ live).1.queues.get ⟨0, "b"⟩ = [] := rfl
  rw [hgone] at hsent
  exact absurd hsent nofun

end Carryover.State
