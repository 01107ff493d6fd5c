/-
# What a counter comes to

A counter adds in 32 bits, and each sum wraps on its own.  Nothing of that is seen in the end: the
count is the exact sum, brought into range once (`effects_counter`).  `exactCount` is that sum, over
the integers.  It begins anew with every reset, so of the increments only those behind the last reset
are left in it.

`count_after_requests` says it of a run of requests, which never aborts.  The order of increments has
no part in it (`effects_perm`).
-/
import Carryover.Proofs.Generation.Life
import Mathlib.Data.Int.ModEq
import Mathlib.Data.List.DropRight

namespace Carryover.State

/-! ## 1. Exact counts -/

/-- The amount that a request adds. -/
def Request.delta? : Request → Option Int32
  | increment delta => some delta
  | _ => none

/-- The sum of what requests add. -/
def deltaSum (asked : List Asked) : Int :=
  ((asked.filterMap (·.request.delta?)).map (·.toInt)).sum

/-- **The count after requests, without a range**: what was added since the last reset, beginning with
zero, or with the count before if there was no reset. -/
def exactCount (start : Int32) (asked : List Asked) : Int :=
  (if ∃ x ∈ asked, x.request = .reset then 0 else start.toInt) +
    deltaSum (asked.rtakeWhile (·.request ≠ .reset))

/-- A reset begins anew. -/
theorem exactCount_concat_reset (start : Int32) (asked : List Asked) {x : Asked}
    (h : x.request = .reset) : exactCount start (asked ++ [x]) = 0 := by
  have hreset : ∃ y ∈ asked ++ [x], y.request = .reset := ⟨x, by simp, h⟩
  unfold exactCount
  rw [if_pos hreset, List.rtakeWhile_concat_neg _ _ _ (by simp [h])]
  rfl

/-- Any other request adds its amount, if it has one. -/
theorem exactCount_concat (start : Int32) (asked : List Asked) {x : Asked} (h : x.request ≠ .reset) :
    exactCount start (asked ++ [x])
      = exactCount start asked + ((x.request.delta?.map (·.toInt)).getD 0) := by
  have hreset : (∃ y ∈ asked ++ [x], y.request = .reset) ↔ ∃ y ∈ asked, y.request = .reset := by
    simp [or_and_right, exists_or, h]
  unfold exactCount deltaSum
  rw [List.rtakeWhile_concat_pos _ _ _ (by simpa using h), List.filterMap_append, List.map_append,
    List.sum_append]
  simp only [hreset]
  cases hdelta : x.request.delta? <;> simp [hdelta, add_assoc]

/-! ## 2. The effects of requests on a counter -/

/-- **The state of a counter after requests**: the exact count, brought into range once. -/
theorem effects_counter (start : Int32) (asked : List Asked) :
    effects asked (.counter ⟨start⟩) = .counter ⟨Int32.ofInt (exactCount start asked)⟩ := by
  induction asked using List.reverseRecOn with
  | nil => simp [effects, exactCount, deltaSum]
  | append_singleton asked x ih =>
    rw [effects_concat, ih]
    by_cases hreset : x.request = .reset
    · rw [exactCount_concat_reset _ _ hreset]
      obtain ⟨timing, request, scope⟩ := x
      obtain rfl : request = .reset := hreset
      rfl
    · rw [exactCount_concat _ _ hreset, Int32.ofInt_add]
      obtain ⟨timing, request, scope⟩ := x
      cases request with
      | increment delta =>
        show Container.counter ⟨_ + delta⟩ = Container.counter ⟨_ + Int32.ofInt delta.toInt⟩
        rw [Int32.ofInt_toInt]
      | reset => exact absurd rfl hreset
      | _ =>
        show Container.counter ⟨_⟩ = Container.counter ⟨_ + Int32.ofInt 0⟩
        simp

/-- **The order of increments does not matter.** -/
theorem effects_perm {xs ys : List Asked} (h : xs.Perm ys)
    (hxs : ∀ x ∈ xs, ∃ delta, x.request = .increment delta) (state : Container) :
    effects xs state = effects ys state := by
  refine h.foldl_eq' (fun x hx y hy state => ?_) state
  obtain ⟨d, hd⟩ := hxs x hx
  obtain ⟨e, he⟩ := hxs y hy
  unfold Asked.effect
  rw [hd, he]
  cases state with
  | counter s =>
    show Container.counter ⟨s.count + d + e⟩ = Container.counter ⟨s.count + e + d⟩
    rw [Int32.add_assoc, Int32.add_comm d, ← Int32.add_assoc]
  | _ => rfl

/-- An integer is brought into the range of 32 bits as the only one there that differs from it by a
multiple of `2 ^ 32`. -/
theorem toInt_ofInt_unique (exact z : Int) :
    -2 ^ 31 ≤ z ∧ z < 2 ^ 31 ∧ z ≡ exact [ZMOD 2 ^ 32] ↔ z = (Int32.ofInt exact).toInt := by
  have hlow := (Int32.ofInt exact).le_toInt
  have hhigh := (Int32.ofInt exact).toInt_lt
  have hmod : (Int32.ofInt exact).toInt ≡ exact [ZMOD 2 ^ 32] := by
    rw [Int32.toInt_ofInt]
    exact Int.bmod_emod
  constructor
  · rintro ⟨hz, hz', hzmod⟩
    have hsame : z % 2 ^ 32 = (Int32.ofInt exact).toInt % 2 ^ 32 := hzmod.trans hmod.symm
    omega
  · rintro rfl
    exact ⟨hlow, hhigh, hmod⟩

/-! ## 3. The law -/

/-- Requests count no edits of a counter. -/
theorem editsOf_counter {asked : List Asked} (h : ∀ x ∈ asked, x.IsFor .counter) :
    editsOf asked = 0 := by
  induction asked with
  | nil => rfl
  | cons x asked ih =>
    obtain ⟨hx, hasked⟩ := List.forall_mem_cons.mp h
    have hnone : x.request.edits = 0 := by
      obtain ⟨timing, request, scope⟩ := x
      cases request with
      | append suffix => exact absurd hx.1 nofun
      | _ => rfl
    show x.request.edits + editsOf asked = 0
    rw [hnone, ih hasked]

/-- A counter request increments or resets. -/
theorem Asked.IsFor.exists_increment {x : Asked} (h : x.IsFor .counter) (hx : x.request ≠ .reset) :
    ∃ delta, x.request = .increment delta := by
  obtain ⟨timing, request, scope⟩ := x
  cases request with
  | increment delta => exact ⟨delta, rfl⟩
  | reset => exact absurd rfl hx
  | _ => exact absurd h.1 nofun

/-- The requests of a counter go through. -/
theorem applyAsked_counter {a : Address} {q : Queues Update} {asked : List Asked} (start : Int32)
    (hempty : q.get a = []) (hfor : ∀ x ∈ asked, x.IsFor .counter) :
    (applyAsked a ⟨.counter ⟨start⟩, q⟩ asked).2 = .ok asked.length ∧
      ∃ s, (applyAsked a ⟨.counter ⟨start⟩, q⟩ asked).1.component = .counter s ∧
        effects asked (.counter ⟨start⟩) = .counter s := by
  have hroom : (Container.counter ⟨start⟩).edits + editsOf asked < UInt32.size := by
    rw [editsOf_counter hfor]
    exact Nat.zero_lt_succ _
  obtain ⟨after, hrun, hafter, hkind, -⟩ :=
    applyAsked_eq ⟨.counter ⟨start⟩, q⟩ rfl hempty hfor hroom
  obtain ⟨s, hs⟩ := counter_of_kind hkind
  rw [hs] at hafter
  rw [hrun]
  exact ⟨rfl, s, hs, (Option.some.inj hafter).symm⟩

/-- **A counter after requests.**  All requests are applied, whatever they add, and none aborts.  The
count is then the one number in the range of 32 bits that differs from the exact count by a multiple
of `2 ^ 32`.  Increments without a reset between them can be requested in any order. -/
theorem count_after_requests (a : Address) (start : Int32) (asked : List Asked) (q : Queues Update)
    (hempty : q.get a = []) (hfor : ∀ x ∈ asked, x.IsFor .counter) :
    let run := applyAsked a ⟨.counter ⟨start⟩, q⟩
    (run asked).2 = .ok asked.length ∧
    (∃ count : Int32, (run asked).1.component = .counter ⟨count⟩ ∧
      ∀ z : Int, -2 ^ 31 ≤ z ∧ z < 2 ^ 31 ∧ z ≡ exactCount start asked [ZMOD 2 ^ 32]
        ↔ z = count.toInt) ∧
    ∀ before xs ys after, asked = before ++ xs ++ after → xs.Perm ys →
      (∀ x ∈ xs, x.request ≠ .reset) →
      (run (before ++ ys ++ after)).2 = (run asked).2 ∧
      (run (before ++ ys ++ after)).1.component = (run asked).1.component := by
  intro run
  obtain ⟨houtcome, s, hcomponent, heffects⟩ := applyAsked_counter start hempty hfor
  refine ⟨houtcome, ⟨Int32.ofInt (exactCount start asked), ?_, toInt_ofInt_unique _⟩, ?_⟩
  · obtain rfl := Container.counter.inj ((effects_counter start asked).symm.trans heffects)
    exact hcomponent
  · rintro before xs ys after rfl hperm hxs
    have hwhole : (before ++ ys ++ after).Perm (before ++ xs ++ after) :=
      (hperm.symm.append_left before).append_right after
    have hxsfor : ∀ x ∈ xs, x.IsFor .counter := fun x hx =>
      hfor x (List.mem_append_left _ (List.mem_append_right _ hx))
    have hsame : effects (before ++ ys ++ after) (.counter ⟨start⟩)
        = effects (before ++ xs ++ after) (.counter ⟨start⟩) := by
      rw [effects_append, effects_append, effects_append (before ++ xs), effects_append before xs,
        effects_perm hperm fun x hx => (hxsfor x hx).exists_increment (hxs x hx)]
    obtain ⟨houtcome', s', hcomponent', heffects'⟩ :=
      applyAsked_counter start hempty fun x hx => hfor x (hwhole.mem_iff.mp hx)
    obtain rfl := Container.counter.inj (heffects'.symm.trans (hsame.trans heffects))
    refine ⟨?_, hcomponent'.trans hcomponent.symm⟩
    rw [houtcome, houtcome', hwhole.length_eq]

/-- A counter is raised twice over the end of its range. -/
def raised : List Asked :=
  let own := Component.counter ⟨0⟩
  [⟨.sync, .increment 5, own⟩, ⟨.sync, .reset, own⟩, ⟨.async, .increment 2147483647, own⟩,
    ⟨.sync, .increment 2147483647, own⟩, ⟨.async, .increment 3, own⟩]

/-- It ends at one, and would if the last two requests came the other way round. -/
theorem count_after_raised :
    let run := applyAsked ⟨0, "count"⟩ ⟨.counter ⟨-7⟩, .empty⟩
    (run raised).2 = .ok 5 ∧ (∃ count : Int32, (run raised).1.component = .counter ⟨count⟩ ∧
      1 = count.toInt) ∧
    (run (raised.take 3 ++ (raised.drop 3).reverse ++ [])).1.component
      = (run raised).1.component := by
  have hfor : ∀ x ∈ raised, x.IsFor .counter := by
    simp [raised, Asked.IsFor, Request.kind, Component.kind]
  obtain ⟨houtcome, ⟨count, hcomponent, hunique⟩, hperm⟩ :=
    count_after_requests ⟨0, "count"⟩ (-7) raised .empty rfl hfor
  refine ⟨houtcome, ⟨count, hcomponent, (hunique 1).mp (by decide)⟩, ?_⟩
  exact (hperm (raised.take 3) (raised.drop 3) (raised.drop 3).reverse [] rfl
    (raised.drop 3).reverse_perm.symm (by simp [raised])).2

end Carryover.State
