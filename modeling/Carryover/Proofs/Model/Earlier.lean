/-
# Declarations next to the earlier ones

Every check for repeated names asks each declaration about the ones before it.  Here such checks
are turned into statements about the list itself: a question about each declaration alone is a
question about the members (`forall_mem_withEarlier`), a question about a declaration and every
earlier one is `List.Pairwise` (`forall_earlier_iff`), and nobody having an earlier namesake is
that the names differ (`no_namesake_iff`).  When they do, leaving out repetitions leaves out
nothing (`firsts_eq_self`).

A list is walked through from its front, so what comes behind it changes nothing for what is there
(`withEarlier_append`, `firsts_concat`).
-/
import Mathlib.Data.List.Induction
import Mathlib.Data.List.Nodup
import Carryover.Model.Validity

namespace Carryover

variable {α : Type}

/-! ## 1. Questions about declarations -/

/-- Forgetting the earlier ones gives the list back. -/
theorem map_snd_withEarlierFrom (before xs : List α) :
    (withEarlierFrom before xs).map Prod.snd = xs := by
  induction xs generalizing before with
  | nil => rfl
  | cons x xs ih =>
    unfold withEarlierFrom
    rw [List.map_cons, ih]

/-- Forgetting the earlier ones gives the list back, also from the beginning. -/
theorem map_snd_withEarlier (xs : List α) : (withEarlier xs).map Prod.snd = xs :=
  map_snd_withEarlierFrom [] xs

/-- What is asked about each declaration alone is asked about each member. -/
theorem forall_mem_withEarlier {P : α → Prop} {xs : List α} :
    (∀ e ∈ withEarlier xs, P e.2) ↔ ∀ x ∈ xs, P x := by
  conv_rhs => rw [← map_snd_withEarlier xs]
  simp only [List.mem_map, forall_exists_index, and_imp, forall_apply_eq_imp_iff₂]

/-- What is asked about each declaration and each one before it, if some come from elsewhere. -/
theorem forall_earlierFrom_iff {R : α → α → Prop} {before xs : List α} :
    (∀ e ∈ withEarlierFrom before xs, ∀ y ∈ e.1, R y e.2) ↔
      (∀ y ∈ before, ∀ x ∈ xs, R y x) ∧ xs.Pairwise R := by
  induction xs generalizing before with
  | nil => simp [withEarlierFrom]
  | cons x xs ih =>
    unfold withEarlierFrom
    rw [List.forall_mem_cons, ih, List.pairwise_cons]
    constructor
    · rintro ⟨hx, hrest, hpairs⟩
      refine ⟨?_, ?_, hpairs⟩
      · intro y hy z hz
        rcases List.mem_cons.mp hz with rfl | hz
        · exact hx y hy
        · exact hrest y (List.mem_append_left _ hy) z hz
      · intro z hz
        exact hrest x (List.mem_append_right _ List.mem_cons_self) z hz
    · rintro ⟨hbefore, hx, hpairs⟩
      refine ⟨fun y hy => hbefore y hy x List.mem_cons_self, ?_, hpairs⟩
      intro y hy z hz
      rcases List.mem_append.mp hy with hy | hy
      · exact hbefore y hy z (List.mem_cons_of_mem x hz)
      · obtain rfl := List.mem_singleton.mp hy
        exact hx z hz

/-- **Asking each declaration about every earlier one is asking about all pairs.** -/
theorem forall_earlier_iff {R : α → α → Prop} {xs : List α} :
    (∀ e ∈ withEarlier xs, ∀ y ∈ e.1, R y e.2) ↔ xs.Pairwise R := by
  unfold withEarlier
  rw [forall_earlierFrom_iff]
  exact and_iff_right nofun

/-- What is asked of each declaration alone goes through the list itself. -/
theorem flatMap_snd_withEarlier {β : Type} (f : α → List β) (xs : List α) :
    ((withEarlier xs).flatMap fun e => f e.2) = xs.flatMap f := by
  conv_rhs => rw [← map_snd_withEarlier xs, List.flatMap_map]

/-- More declarations have all of the first ones before them. -/
theorem withEarlierFrom_append (before xs ys : List α) : withEarlierFrom before (xs ++ ys)
    = withEarlierFrom before xs ++ withEarlierFrom (before ++ xs) ys := by
  induction xs generalizing before with
  | nil =>
    rw [List.append_nil]
    rfl
  | cons x xs ih =>
    have hbefore : before ++ x :: xs = before ++ [x] ++ xs := by simp
    rw [hbefore]
    exact congrArg ((before, x) :: ·) (ih _)

/-- **What comes behind a list is not before anything in it.** -/
theorem withEarlier_append (xs ys : List α) :
    withEarlier (xs ++ ys) = withEarlier xs ++ withEarlierFrom xs ys :=
  withEarlierFrom_append [] xs ys

/-- One more declaration has all others before it. -/
theorem withEarlier_concat (xs : List α) (x : α) :
    withEarlier (xs ++ [x]) = withEarlier xs ++ [(xs, x)] :=
  withEarlier_append xs [x]

/-! ## 2. Namesakes -/

/-- **No declaration has an earlier namesake exactly when the names differ.** -/
theorem no_namesake_iff {key : α → String} {xs : List α} :
    (∀ e ∈ withEarlier xs, e.1.any (key · == key e.2) = false) ↔ (xs.map key).Nodup := by
  have hnone : ∀ e : List α × α,
      e.1.any (key · == key e.2) = false ↔ ∀ y ∈ e.1, key y ≠ key e.2 := by
    intro e
    simp
  simp only [hnone]
  rw [forall_earlier_iff (R := fun y x => key y ≠ key x), List.Nodup, List.pairwise_map]

/-- Where all names differ, every declaration is the first of its name. -/
theorem firsts_eq_self {key : α → String} {xs : List α} (h : (xs.map key).Nodup) :
    firsts key xs = xs := by
  have hfirst := no_namesake_iff.mpr h
  have hall : firsts key xs = (withEarlier xs).filterMap fun e => some e.2 := by
    refine List.filterMap_congr ?_
    intro e he
    simp [hfirst e he]
  rw [hall, List.filterMap_eq_map', map_snd_withEarlier]

/-- One more declaration is the first of its name if no other has it. -/
theorem firsts_concat (key : α → String) (xs : List α) (x : α) : firsts key (xs ++ [x])
    = firsts key xs ++ if xs.any (key · == key x) then [] else [x] := by
  unfold firsts
  rw [withEarlier_concat, List.filterMap_append]
  refine congrArg _ ?_
  simp only [List.filterMap_cons, List.filterMap_nil]
  cases xs.any (key · == key x) <;> rfl

/-- **The names of the first declarations** are all names, each once. -/
theorem map_firsts (key : α → String) (xs : List α) :
    (firsts key xs).map key = (xs.map key).eraseDups := by
  induction xs using List.reverseRecOn with
  | nil => rfl
  | append_singleton xs x ih =>
    have hany : xs.any (key · == key x) = (xs.map key).elem (key x) := by
      rw [Bool.eq_iff_iff]
      simp
    rw [firsts_concat, hany, List.map_append, ih, List.map_append, List.eraseDups_append]
    refine congrArg _ ?_
    show _ = (List.filter _ [key x]).eraseDups
    rw [List.filter_cons]
    cases (xs.map key).elem (key x) <;> simp [List.eraseDups_cons]

/-- So the first declarations have names that differ. -/
theorem nodup_map_firsts (key : α → String) (xs : List α) : ((firsts key xs).map key).Nodup := by
  induction xs using List.reverseRecOn with
  | nil => exact List.nodup_nil
  | append_singleton xs x ih =>
    rw [firsts_concat, List.map_append]
    split
    · rwa [List.map_nil, List.append_nil]
    · next hnew =>
      have hfresh : key x ∉ (firsts key xs).map key := by
        rw [map_firsts, List.mem_eraseDups]
        simpa using hnew
      exact List.nodup_append.mpr ⟨ih, List.nodup_singleton _, fun a ha b hb hab =>
        hfresh (List.mem_singleton.mp hb ▸ hab ▸ ha)⟩

/-! ## 3. Reports -/

/-- Nothing is reported without a reason. -/
@[simp] theorem reportIf_eq_nil_iff {reason : Bool} {d : Defect} :
    reportIf reason d = [] ↔ reason = false := by
  cases reason <;> simp [reportIf]

end Carryover
