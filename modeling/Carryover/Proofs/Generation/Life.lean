/-
# State does not depend on when a component is made anew

The life of a component is a list of batches.  In each, requests are made through contexts of one
address, each in the scope of whichever generation; then the next generation is there, with a
state of its own, takes over the state of the one before, and has the waiting updates applied to
it.  `Batch.pass` is one batch and `life` all of them, made of `Context.request`, `carryForward`
and `applyQueue` and nothing else.

`life_eq_foldl_effect`: a life ends with the state in which the effects of all requests leave the
first state, in the order of the requests; where the batches are cut has no part in it.  Every
transfer and every application succeeds, and each application counts its batch.

The invariant is in the statement of each step: the live component shows the state, and the queue
of the address holds what was asked since (`get_foldl_ask`), which is nothing between batches.
-/
import Carryover.Proofs.Generation.Request
import Carryover.Proofs.Handler.Ending

namespace Carryover.State

/-! ## 1. Lives -/

/-- The queues once a request is made in a context of the address, scoped to the request's
generation. -/
def ask (a : Address) (q : Queues Update) (x : Asked) : Queues Update :=
  ((Context.ofHandler a.handler).withScope a.key x.scope).request x.timing x.request q

/-- Requests up to the next generation of a component. -/
structure Batch where
  asked : List Asked
  /-- The next generation as it is made, with a state of its own. -/
  next : Component

/-- One batch: the requests are made, the state is carried to the next generation, and what
waits is applied to it.  Also the number of updates applied. -/
def Batch.pass (b : Batch) (a : Address) (live : Live Component Update) :
    Except Stop (Live Component Update × Nat) :=
  match carryForward live.component b.next with
  | .error e => .error (.refused e)
  | .ok carried =>
    match applyQueue a ⟨carried.getD b.next, b.asked.foldl (ask a) live.queues⟩ with
    | (_, .error e) => .error e
    | (live, .ok applied) => .ok (live, applied)

/-- A life, batch after batch, with the number of updates applied in each. -/
def life (a : Address) :
    List Batch → Live Component Update → Except Stop (Live Component Update × List Nat)
  | [], live => .ok (live, [])
  | b :: bs, live => do
    let (live, applied) ← b.pass a live
    let (live, more) ← life a bs live
    return (live, applied :: more)

/-- All requests of a life, in order. -/
def allAsked (batches : List Batch) : List Asked :=
  batches.flatMap (·.asked)

/-- The state after requests, one after the other. -/
def effects (asked : List Asked) (state : Container) : Container :=
  asked.foldl (fun state x => x.effect state) state

/-- How many edits requests count. -/
def editsOf : List Asked → Nat
  | [] => 0
  | x :: asked => x.request.edits + editsOf asked

/-! ## 2. What waits -/

/-- What waits for a request. -/
def Asked.pending (x : Asked) : Pending Update :=
  ⟨x.request.mode x.timing, .command x.command⟩

/-- A request in the scope of its own kind of component is put into the queue of the address. -/
theorem ask_eq_push {x : Asked} {k : Kind} (h : x.IsFor k) (a : Address) (q : Queues Update) :
    ask a q x = q.push a x.pending := by
  unfold ask Context.request
  simp only [Context.withScope, Context.ofHandler, Option.bind_some, x.command?_eq h]
  rfl

/-- Requests wait in the order in which they are made. -/
theorem get_foldl_ask {k : Kind} (a : Address) (q : Queues Update) (asked : List Asked)
    (h : ∀ x ∈ asked, x.IsFor k) :
    (asked.foldl (ask a) q).get a = q.get a ++ asked.map Asked.pending := by
  induction asked generalizing q with
  | nil => exact (List.append_nil _).symm
  | cons x asked ih =>
    obtain ⟨hx, hasked⟩ := List.forall_mem_cons.mp h
    rw [List.foldl_cons, ih _ hasked, ask_eq_push hx, Queues.get_push, if_pos rfl,
      List.append_assoc, List.map_cons, List.singleton_append]

/-! ## 3. Applying what waits -/

/-- Room for all requests is room for the first, and afterwards for the others. -/
theorem fits_cons {x : Asked} {asked : List Asked} {state : Container}
    (h : state.edits + editsOf (x :: asked) < UInt32.size) :
    x.Fits state ∧ (x.effect state).edits + editsOf asked < UInt32.size := by
  have hsum : editsOf (x :: asked) = x.request.edits + editsOf asked := rfl
  have hle := x.edits_effect_le state
  unfold Asked.Fits
  omega

/-- **What waits for requests goes through and leaves their effects.**  Each command reads what the
component shows by then, so the state is handed from one to the next. -/
theorem through_pending (nested : Address → Live Component Update → Run Component Update)
    (asked : List Asked) (live : Live Component Update) (state : Container)
    (hlive : live.component.container? = some state)
    (hfor : ∀ x ∈ asked, x.IsFor live.component.kind)
    (hroom : state.edits + editsOf asked < UInt32.size) :
    ∃ c : Component, c.container? = some (effects asked state) ∧ c.kind = live.component.kind ∧
      Through Component.container? (Update.run nested) (asked.map Asked.pending) live
        ⟨c, live.queues⟩ := by
  induction asked generalizing live state with
  | nil => exact ⟨live.component, hlive, rfl, .nil live⟩
  | cons x asked ih =>
    obtain ⟨hfits, hroom'⟩ := fits_cons hroom
    obtain ⟨hx, hasked⟩ := List.forall_mem_cons.mp hfor
    obtain ⟨next, hrun, hnext, hkind⟩ := Asked.run_command hlive hx hfits
    have hstep : x.pending.update.run nested state live
        = ({ live with component := next }, .ok ()) := by
      show live.change (x.command.run state live.component) = _
      rw [hrun]
      rfl
    obtain ⟨c, hc, hckind, hthrough⟩ := ih { live with component := next } (x.effect state) hnext
      (fun y hy => hkind ▸ hasked y hy) hroom'
    exact ⟨c, hc, hckind.trans hkind, .cons hlive hstep hthrough⟩

/-- The run of a queue that requests were put into. -/
def applyAsked (a : Address) (live : Live Component Update) (asked : List Asked) :
    Run Component Update :=
  applyQueue a { live with queues := asked.foldl (ask a) live.queues }

/-- Into a queue that was empty: what waits for the requests is run, and nothing else. -/
theorem exists_applyAsked_eq {a : Address} (live : Live Component Update) {asked : List Asked}
    (hempty : live.queues.get a = []) (hfor : ∀ x ∈ asked, x.IsFor live.component.kind) :
    ∃ depth, applyAsked a live asked
      = replay Component.container? (Update.run (applyWithin depth)) a (asked.map Asked.pending) 0
        ⟨live.component, (asked.foldl (ask a) live.queues).set a []⟩ := by
  have hwaiting : (asked.foldl (ask a) live.queues).get a = asked.map Asked.pending := by
    rw [get_foldl_ask a _ _ hfor, hempty, List.nil_append]
  refine ⟨(asked.foldl (ask a) live.queues).drains, ?_⟩
  unfold applyAsked applyQueue applyWithin takeAndReplay
  rw [hwaiting]

/-- **Requests are applied in one run**, with room to count their edits: each goes through and is
counted, the component shows their effects, and nothing waits afterwards. -/
theorem applyAsked_eq {a : Address} (live : Live Component Update) {asked : List Asked}
    {state : Container} (hlive : live.component.container? = some state)
    (hempty : live.queues.get a = []) (hfor : ∀ x ∈ asked, x.IsFor live.component.kind)
    (hroom : state.edits + editsOf asked < UInt32.size) :
    ∃ after, applyAsked a live asked = (after, .ok asked.length) ∧
      after.component.container? = some (effects asked state) ∧
      after.component.kind = live.component.kind ∧ after.queues.get a = [] := by
  obtain ⟨depth, hrun⟩ := exists_applyAsked_eq live hempty hfor
  obtain ⟨c, hc, hckind, hthrough⟩ := through_pending (applyWithin depth) asked
    ⟨live.component, (asked.foldl (ask a) live.queues).set a []⟩ state hlive hfor hroom
  have hreplay := hthrough.replay_append a [] 0
  rw [List.append_nil, Nat.zero_add, List.length_map] at hreplay
  exact ⟨_, hrun.trans hreplay, hc, hckind, Queues.get_set_self _ a []⟩

/-! ## 4. Carrying state -/

/-- **State is carried whole** to a next generation of the same kind, whatever it held. -/
theorem carryForward_eq {prev next : Component} {state : Container}
    (hprev : prev.container? = some state) (hkind : next.kind = prev.kind) :
    ∃ c, carryForward prev next = .ok (some c) ∧ c.container? = some state ∧
      c.kind = prev.kind := by
  cases prev with
  | counter s =>
    obtain rfl := Option.some.inj hprev
    obtain ⟨own, rfl⟩ := counter_of_kind hkind
    exact ⟨_, rfl, rfl, rfl⟩
  | label s =>
    obtain rfl := Option.some.inj hprev
    obtain ⟨own, rfl⟩ := label_of_kind hkind
    exact ⟨_, rfl, rfl, rfl⟩
  | title s =>
    obtain rfl := Option.some.inj hprev
    obtain ⟨own, rfl⟩ := title_of_kind hkind
    exact ⟨_, rfl, rfl, rfl⟩
  | greeter w s =>
    obtain rfl := Option.some.inj hprev
    obtain ⟨bound, own, rfl⟩ := greeter_of_kind hkind
    exact ⟨_, rfl, rfl, rfl⟩
  | badge => exact absurd hprev nofun
  | tally s =>
    obtain rfl := Option.some.inj hprev
    obtain ⟨own, rfl⟩ := tally_of_kind hkind
    exact ⟨_, rfl, rfl, rfl⟩
  | hollow => exact absurd hprev nofun

/-! ## 5. Lives -/

/-- Effects of requests made in two parts are the effects of the parts. -/
theorem effects_append (xs ys : List Asked) (state : Container) :
    effects (xs ++ ys) state = effects ys (effects xs state) :=
  List.foldl_append

/-- The last request has its effect on what the others leave. -/
theorem effects_concat (xs : List Asked) (x : Asked) (state : Container) :
    effects (xs ++ [x]) state = x.effect (effects xs state) :=
  effects_append xs [x] state

/-- Requests made in two parts count the edits of both. -/
theorem editsOf_append (xs ys : List Asked) : editsOf (xs ++ ys) = editsOf xs + editsOf ys := by
  induction xs with
  | nil => exact (Nat.zero_add _).symm
  | cons x xs ih =>
    show x.request.edits + editsOf (xs ++ ys) = x.request.edits + editsOf xs + editsOf ys
    rw [ih, Nat.add_assoc]

/-- Requests count their own edits at most. -/
theorem edits_effects_le (asked : List Asked) (state : Container) :
    (effects asked state).edits ≤ state.edits + editsOf asked := by
  induction asked generalizing state with
  | nil => exact Nat.le_refl _
  | cons x asked ih =>
    have hsum : editsOf (x :: asked) = x.request.edits + editsOf asked := rfl
    have hrest : (effects (x :: asked) state).edits
        ≤ (x.effect state).edits + editsOf asked := ih (x.effect state)
    have hfirst := x.edits_effect_le state
    omega

/-- **One batch.**  The state is carried, every request of the batch is applied and counted, and
nothing waits afterwards. -/
theorem Batch.pass_eq {a : Address} {b : Batch} {live : Live Component Update} {state : Container}
    (hlive : live.component.container? = some state) (hempty : live.queues.get a = [])
    (hkind : b.next.kind = live.component.kind)
    (hfor : ∀ x ∈ b.asked, x.IsFor live.component.kind)
    (hroom : state.edits + editsOf b.asked < UInt32.size) :
    ∃ after, b.pass a live = .ok (after, b.asked.length) ∧
      after.component.container? = some (effects b.asked state) ∧
      after.component.kind = live.component.kind ∧ after.queues.get a = [] := by
  obtain ⟨c, hcarry, hc, hckind⟩ := carryForward_eq hlive hkind
  obtain ⟨after, hrun, hafter, hafterkind, hafterempty⟩ :=
    applyAsked_eq ⟨c, live.queues⟩ hc hempty (fun x hx => hckind ▸ hfor x hx) hroom
  refine ⟨after, ?_, hafter, hafterkind.trans hckind, hafterempty⟩
  unfold applyAsked at hrun
  unfold Batch.pass
  simp only [hcarry, Option.getD_some, hrun]

/-- **State depends on the requests alone.**  However the requests of a life are cut into batches,
with whichever next generations and each request in whichever scope, every transfer and every
application succeeds, each application counts its batch, and the state at the end is the effect of
the requests, in their order, on the state at the start.  A greeting takes the salutation of its
own scope.  The requests must leave a label room to count its edits. -/
theorem life_eq_foldl_effect (a : Address) (batches : List Batch) (live : Live Component Update)
    (state : Container) (hlive : live.component.container? = some state)
    (hempty : live.queues.get a = [])
    (hbatches : ∀ b ∈ batches, b.next.kind = live.component.kind ∧
      ∀ x ∈ b.asked, x.IsFor live.component.kind)
    (hroom : state.edits + editsOf (allAsked batches) < UInt32.size) :
    ∃ after, life a batches live = .ok (after, batches.map (·.asked.length)) ∧
      after.component.container? = some (effects (allAsked batches) state) ∧
      after.queues.get a = [] := by
  induction batches generalizing live state with
  | nil => exact ⟨live, rfl, hlive, hempty⟩
  | cons b batches ih =>
    obtain ⟨hkind, hfor⟩ := hbatches b List.mem_cons_self
    have hall : allAsked (b :: batches) = b.asked ++ allAsked batches := List.flatMap_cons
    rw [hall, editsOf_append] at hroom
    obtain ⟨mid, hpass, hmid, hmidkind, hmidempty⟩ :=
      Batch.pass_eq hlive hempty hkind hfor (by omega)
    have hmidroom : (effects b.asked state).edits + editsOf (allAsked batches) < UInt32.size := by
      have hle := edits_effects_le b.asked state
      omega
    obtain ⟨after, hlife, hafter, hafterempty⟩ := ih mid (effects b.asked state) hmid hmidempty
      (fun c hc => hmidkind ▸ hbatches c (List.mem_cons_of_mem b hc)) hmidroom
    refine ⟨after, ?_, ?_, hafterempty⟩
    · unfold life
      rw [hpass]
      show (life a batches mid).bind _ = _
      rw [hlife]
      rfl
    · rw [hall, effects_append]
      exact hafter

/-- A greeter's life: the second greeting is asked for in the scope of the first generation, and
the generation that it is applied to says something else. -/
def lateGreeting : List Batch :=
  let first := Component.greeter "Hello" ⟨""⟩
  let second := Component.greeter "Good evening" ⟨"not yet"⟩
  [⟨[⟨.sync, .greet "Ada", first⟩], second⟩, ⟨[], first⟩,
    ⟨[⟨.sync, .greet "Ben", second⟩, ⟨.async, .greet "Cy", first⟩], second⟩]

/-- The late greeting is made as it was asked for. -/
theorem greeting_after_lateGreeting :
    ∃ after, life ⟨0, "door"⟩ lateGreeting ⟨.greeter "Hello" ⟨""⟩, .empty⟩
        = .ok (after, [1, 0, 2]) ∧
      after.component.container? = some (.greeter ⟨"Hello, Cy!"⟩) ∧
      after.queues.get ⟨0, "door"⟩ = [] :=
  life_eq_foldl_effect ⟨0, "door"⟩ lateGreeting ⟨.greeter "Hello" ⟨""⟩, .empty⟩ (.greeter ⟨""⟩)
    rfl rfl (by simp [lateGreeting, Asked.IsFor, Component.kind, Request.kind]) (by decide)

end Carryover.State
