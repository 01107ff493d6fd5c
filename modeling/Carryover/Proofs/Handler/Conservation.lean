/-
# No update is lost, doubled or moved

A `Ledger` is the queues together with all that happened to updates: `dispatched` when one is
put into a queue, from outside or by another update, and `consumed` when one is run, whatever
comes of it.  A handler is used by calls, each of which puts in one update or applies the queue
of an address to a component; the ledger after a call has the queues that the call leaves.  To
see inside an application the same queue is applied once more to the component with the events
so far at its side (`Behaviour.recording`); `apply_recording` says that this changes nothing.

The invariant is `Balanced`: at every address the updates dispatched are those consumed followed
by those `held`, which are the queue and, in the middle of a replay, in front of it what the
replay has taken out and not yet run.  One step of a replay moves an update from the held to the
consumed (`balanced_consume`); putting back what is left moves nothing (`held_putBack`).  From
these a whole replay (`balanced_replay`) and any sequence of calls (`balanced_calls`) keep the
balance.  Only an aborting update ends the calls early (`Ledger.exists_calls?`).
-/
import Carryover.Proofs.Handler.Behaviour

namespace Carryover.State

variable {γ σ υ : Type}

/-! ## 1. Events -/

/-- Something that happened to an update. -/
inductive Event (υ : Type) where
  /-- It was put into the queue of an address. -/
  | dispatched (a : Address) (p : Pending υ)
  /-- It was taken from the queue of an address and run. -/
  | consumed (a : Address) (u : υ)

/-- The updates put into the queue of an address, oldest first. -/
def dispatchedAt (a : Address) (events : List (Event υ)) : List (Pending υ) :=
  events.filterMap fun
    | .dispatched b p => if b = a then some p else none
    | .consumed _ _ => none

/-- The updates of the queue of an address that were run, oldest first. -/
def consumedAt (a : Address) (events : List (Event υ)) : List υ :=
  events.filterMap fun
    | .dispatched _ _ => none
    | .consumed b u => if b = a then some u else none

/-- The events of one run of an update from the queue of `a`: it is consumed, and then it
dispatches. -/
def runEvents (a : Address) (u : υ) (sent : List (Address × Pending υ)) : List (Event υ) :=
  .consumed a u :: sent.map fun s => .dispatched s.1 s.2

/-- What a run dispatches to an address is what it sends there. -/
theorem dispatchedAt_runEvents (a b : Address) (u : υ) (sent : List (Address × Pending υ)) :
    dispatchedAt b (runEvents a u sent) = sentTo b sent := by
  simp only [dispatchedAt, runEvents, sentTo, List.filterMap_cons, List.filterMap_map]
  rfl

/-- A run consumes one update. -/
theorem consumedAt_runEvents (a b : Address) (u : υ) (sent : List (Address × Pending υ)) :
    consumedAt b (runEvents a u sent) = if a = b then [u] else [] := by
  have hsent : (sent.map fun s => Event.dispatched s.1 s.2).filterMap
      (fun e : Event υ => match e with
        | .dispatched _ _ => none
        | .consumed c u => if c = b then some u else none) = [] := by
    simp [List.filterMap_map]
  unfold consumedAt runEvents
  rw [List.filterMap_cons, hsent]
  by_cases h : a = b <;> simp [h]

/-- The behaviour with the events at the side of the component. -/
def Behaviour.recording (b : Behaviour γ σ υ) (a : Address) :
    Behaviour (γ × List (Event υ)) σ υ where
  expose c := b.expose c.1
  run u old live :=
    let e := b.run u old (live.map Prod.fst)
    ⟨(e.component, live.component.2 ++ runEvents a u e.sent), e.sent, e.outcome⟩

/-- **Recording changes nothing.** -/
theorem Behaviour.apply_recording (b : Behaviour γ σ υ) (a : Address)
    (live : Live (γ × List (Event υ)) υ) :
    Prod.map (Live.map Prod.fst) id ((b.recording a).apply a live)
      = b.apply a (live.map Prod.fst) :=
  replay_map Prod.fst (fun _ => rfl) (fun _ _ _ => rfl) a _ 0 _

/-! ## 2. Calls -/

/-- One use of a handler. -/
inductive Call (γ υ : Type) where
  | dispatch (a : Address) (p : Pending υ)
  | apply (a : Address) (component : γ)

/-- The queues, and what happened to updates so far. -/
structure Ledger (υ : Type) where
  queues : Queues υ
  events : List (Event υ)

namespace Ledger

/-- Nothing has happened. -/
def empty : Ledger υ :=
  ⟨.empty, []⟩

/-- The updates dispatched to an address so far, in order. -/
def dispatched (l : Ledger υ) (a : Address) : List (Pending υ) :=
  dispatchedAt a l.events

/-- The updates consumed for an address so far, in order. -/
def consumed (l : Ledger υ) (a : Address) : List υ :=
  consumedAt a l.events

/-- The ledger after a call; none if the call aborts. -/
def call? (b : Behaviour γ σ υ) (l : Ledger υ) : Call γ υ → Option (Ledger υ)
  | .dispatch a p => some ⟨l.queues.push a p, l.events ++ [.dispatched a p]⟩
  | .apply a c =>
    let left := (b.apply a ⟨c, l.queues⟩).1
    let recorded := ((b.recording a).apply a ⟨(c, l.events), l.queues⟩).1
    match (b.apply a ⟨c, l.queues⟩).2 with
    | .error .aborted => none
    | _ => some ⟨left.queues, recorded.component.2⟩

/-- The ledger after calls, one after the other. -/
def calls? (b : Behaviour γ σ υ) (l : Ledger υ) (calls : List (Call γ υ)) : Option (Ledger υ) :=
  calls.foldlM (call? b) l

/-- **Only an abort ends a sequence of calls early.** -/
theorem exists_calls? {b : Behaviour γ σ υ}
    (h : ∀ u old live, (b.run u old live).outcome ≠ .error .aborted)
    (calls : List (Call γ υ)) (l : Ledger υ) : ∃ l', l.calls? b calls = some l' := by
  have hcall : ∀ (l : Ledger υ) call, ∃ l', l.call? b call = some l' := by
    intro l call
    cases call with
    | dispatch a p => exact ⟨_, rfl⟩
    | apply a c =>
      have hends : (b.apply a ⟨c, l.queues⟩).2 ≠ .error .aborted := b.replay_ne_aborted h a _ 0 _
      simp only [call?]
      exact ⟨_, rfl⟩
  induction calls generalizing l with
  | nil => exact ⟨l, rfl⟩
  | cons call calls ih =>
    obtain ⟨next, hnext⟩ := hcall l call
    obtain ⟨last, hlast⟩ := ih next
    refine ⟨last, ?_⟩
    unfold calls? at hlast ⊢
    rw [List.foldlM_cons, hnext]
    exact hlast

end Ledger

/-! ## 3. The invariant -/

/-- What is held for an address while the replay of the queue of `a` has `taken` yet to run. -/
def held (a : Address) (taken : List (Pending υ)) (q : Queues υ) (k : Address) :
    List (Pending υ) :=
  (if a = k then taken else []) ++ q.get k

/-- **The balance.**  At every address, what was dispatched is what was consumed, followed by
what is held. -/
def Balanced (events : List (Event υ)) (held : Address → List (Pending υ)) : Prop :=
  ∀ k, ∃ done : List (Pending υ),
    done.map (·.update) = consumedAt k events ∧ dispatchedAt k events = done ++ held k

/-- With nothing taken out, the queues are what is held. -/
theorem held_nil (a : Address) (q : Queues υ) : held a [] q = q.get := by
  funext k
  simp [held]

/-- Taking a queue out changes nothing in what is held. -/
theorem held_take (a : Address) (q : Queues υ) : held a (q.get a) (q.set a []) = q.get := by
  funext k
  unfold held
  by_cases h : a = k
  · subst h
    rw [if_pos rfl, Queues.get_set_self, List.append_nil]
  · rw [if_neg h, Queues.get_set_of_ne q (fun e => h e.symm), List.nil_append]

/-- Putting back what is left changes nothing in what is held. -/
theorem held_putBack (a : Address) (rest : List (Pending υ)) (q : Queues υ) :
    (q.putBack a rest).get = held a rest q := by
  funext k
  exact q.get_putBack a k rest

/-- **One update is put into a queue.** -/
theorem balanced_dispatch {events : List (Event υ)} {q : Queues υ}
    (h : Balanced events q.get) (a : Address) (p : Pending υ) :
    Balanced (events ++ [.dispatched a p]) (q.push a p).get := by
  intro k
  obtain ⟨done, hdone, hall⟩ := h k
  refine ⟨done, ?_, ?_⟩
  · rw [hdone]
    simp [consumedAt]
  · rw [Queues.get_push, ← List.append_assoc, ← hall]
    by_cases hk : a = k <;> simp [dispatchedAt, hk]

/-- **One update is run.**  It goes from the held to the consumed, and what it sends is
dispatched behind everything that is held. -/
theorem balanced_consume {events : List (Event υ)} {a : Address} {p : Pending υ}
    {rest : List (Pending υ)} {q : Queues υ} (h : Balanced events (held a (p :: rest) q))
    (sent : List (Address × Pending υ)) :
    Balanced (events ++ runEvents a p.update sent) (held a rest (q.pushAll sent)) := by
  intro k
  obtain ⟨done, hdone, hall⟩ := h k
  have hconsumed : consumedAt k (events ++ runEvents a p.update sent)
      = consumedAt k events ++ if a = k then [p.update] else [] := by
    rw [← consumedAt_runEvents a k p.update sent]
    exact List.filterMap_append
  have hdispatched : dispatchedAt k (events ++ runEvents a p.update sent)
      = dispatchedAt k events ++ sentTo k sent := by
    rw [← dispatchedAt_runEvents a k p.update sent]
    exact List.filterMap_append
  refine ⟨done ++ if a = k then [p] else [], ?_, ?_⟩
  · rw [hconsumed, List.map_append, hdone]
    by_cases hk : a = k <;> simp [hk]
  · rw [hdispatched, hall]
    unfold held
    rw [Queues.get_pushAll]
    by_cases hk : a = k <;> simp [hk]

/-! ## 4. Replays and calls keep it -/

/-- **A replay keeps the balance**, wherever it ends, unless an update aborts. -/
theorem balanced_replay (b : Behaviour γ σ υ) (a : Address) (waiting : List (Pending υ))
    (applied : Nat) (live : Live (γ × List (Event υ)) υ)
    (h : Balanced live.component.2 (held a waiting live.queues))
    (hends : (replay (b.recording a).expose (b.recording a).step a waiting applied live).2
      ≠ .error .aborted) :
    Balanced
      (replay (b.recording a).expose (b.recording a).step a waiting applied live).1.component.2
      (replay (b.recording a).expose (b.recording a).step a waiting applied live).1.queues.get
    := by
  induction waiting generalizing applied live with
  | nil =>
    rw [held_nil] at h
    exact h
  | cons p rest ih =>
    cases hx : (b.recording a).expose live.component with
    | none =>
      rw [replay_cons_of_none hx]
      simp only [held_putBack]
      exact h
    | some old =>
      -- whatever comes of the update, it is consumed and has sent
      have hnext := balanced_consume h (b.run p.update old (live.map Prod.fst)).sent
      match hs : (b.recording a).step p.update old live with
      | (next, .ok ()) =>
        rw [replay_cons_of_ok hx hs] at hends ⊢
        obtain ⟨rfl, -⟩ := Prod.mk.inj hs
        exact ih (applied + 1) _ hnext hends
      | (next, .error (.refused e)) =>
        rw [replay_cons_of_refused hx hs]
        obtain ⟨rfl, -⟩ := Prod.mk.inj hs
        simp only [held_putBack]
        exact hnext
      | (next, .error .aborted) =>
        exact absurd (by rw [replay_cons_of_aborted hx hs]) hends

/-- **A call keeps the balance.** -/
theorem balanced_call {b : Behaviour γ σ υ} {l l' : Ledger υ} {call : Call γ υ}
    (h : Balanced l.events l.queues.get) (hcall : l.call? b call = some l') :
    Balanced l'.events l'.queues.get := by
  cases call with
  | dispatch a p =>
    obtain rfl := Option.some.inj hcall
    exact balanced_dispatch h a p
  | apply a c =>
    have hsame := b.apply_recording a ⟨(c, l.events), l.queues⟩
    have hqueues : ((b.recording a).apply a ⟨(c, l.events), l.queues⟩).1.queues
        = (b.apply a ⟨c, l.queues⟩).1.queues := congrArg (fun r : Run γ υ => r.1.queues) hsame
    have houtcome : ((b.recording a).apply a ⟨(c, l.events), l.queues⟩).2
        = (b.apply a ⟨c, l.queues⟩).2 := congrArg Prod.snd hsame
    have hstart : Balanced l.events (held a (l.queues.get a) (l.queues.set a [])) := by
      rw [held_take]
      exact h
    have hreplay := balanced_replay b a (l.queues.get a) 0
      ⟨(c, l.events), l.queues.set a []⟩ hstart
    simp only [Ledger.call?] at hcall
    split at hcall
    · exact absurd hcall nofun
    · rename_i hends
      obtain rfl := Option.some.inj hcall
      rw [← hqueues]
      exact hreplay fun hab => hends (houtcome.symm.trans hab)

/-- **Calls keep the balance**, as many as there are. -/
theorem balanced_calls {b : Behaviour γ σ υ} {l l' : Ledger υ} (calls : List (Call γ υ))
    (h : Balanced l.events l.queues.get) (hcalls : l.calls? b calls = some l') :
    Balanced l'.events l'.queues.get := by
  induction calls generalizing l with
  | nil =>
    obtain rfl := Option.some.inj hcalls
    exact h
  | cons call calls ih =>
    unfold Ledger.calls? at hcalls
    rw [List.foldlM_cons] at hcalls
    obtain ⟨next, hnext, hrest⟩ := Option.bind_eq_some_iff.mp hcalls
    exact ih (balanced_call h hnext) hrest

/-- Nothing is dispatched, consumed or held before the first call. -/
theorem balanced_empty :
    Balanced (Ledger.empty : Ledger υ).events (Ledger.empty : Ledger υ).queues.get :=
  fun _ => ⟨[], rfl, rfl⟩

/-! ## 5. The whole life of a handler -/

/-- **No update is lost, doubled or moved.**  After any calls on a handler, at every address:
the updates dispatched are, in order, those consumed followed by those in the queue, and count,
modes and the wish for a rendering are those of the updates dispatched and not yet consumed. -/
theorem dispatched_eq_consumed_append_waiting (b : Behaviour γ σ υ) (calls : List (Call γ υ))
    (l : Ledger υ) (hcalls : Ledger.empty.calls? b calls = some l) (a : Address) :
    (l.dispatched a).map (·.update) = l.consumed a ++ (l.queues.get a).map (·.update) ∧
    l.queues.get a = (l.dispatched a).drop (l.consumed a).length ∧
    l.queues.count a = ((l.dispatched a).drop (l.consumed a).length).length ∧
    l.queues.modes a = ((l.dispatched a).drop (l.consumed a).length).map (·.mode) ∧
    (l.queues.needsRender a = true ↔
      ∃ p ∈ (l.dispatched a).drop (l.consumed a).length, p.mode ≠ .lazy) := by
  obtain ⟨done, hdone, hall⟩ := balanced_calls calls balanced_empty hcalls a
  have hdispatched : l.dispatched a = done ++ l.queues.get a := hall
  have hconsumed : l.consumed a = done.map (·.update) := hdone.symm
  have hwaiting : (l.dispatched a).drop (l.consumed a).length = l.queues.get a := by
    rw [hdispatched, hconsumed, List.length_map, List.drop_left]
  rw [hwaiting]
  refine ⟨?_, rfl, l.queues.count_eq a, l.queues.modes_eq a, l.queues.needsRender_iff a⟩
  rw [hdispatched, List.map_append, hconsumed]

/-- Two updates of three are run: one puts a fourth behind them, the next refuses.  The third goes
back in front of the fourth, and stays there when a component without a container comes. -/
def refusalInTheMiddle : List (Call Component Update) :=
  let a : Address := ⟨0, "title"⟩
  [.dispatch a ⟨.sync, .enqueue a .lazy .nothing⟩,
    .dispatch a ⟨.sync, .fail .missingContainer⟩,
    .dispatch a ⟨.async, .nothing⟩,
    .apply a (.title ⟨"", []⟩),
    .apply a .badge]

/-- The balance of these calls. -/
theorem modes_after_refusalInTheMiddle : ∃ l : Ledger Update,
    Ledger.empty.calls? Update.behaviour refusalInTheMiddle = some l ∧
    (l.consumed ⟨0, "title"⟩).length = 2 ∧ l.queues.modes ⟨0, "title"⟩ = [.async, .lazy] ∧
    l.queues.get ⟨0, "title"⟩
      = (l.dispatched ⟨0, "title"⟩).drop (l.consumed ⟨0, "title"⟩).length :=
  ⟨_, rfl, rfl, rfl,
    (dispatched_eq_consumed_append_waiting Update.behaviour refusalInTheMiddle _ rfl
      ⟨0, "title"⟩).2.1⟩

end Carryover.State
