/-
# More methods, no fewer defects

A method that is added behind the others adds defects and takes none away:
`reported_sublist_withMethod`.  Most of the check goes from the first method to the last and meets the
new one at the end.  Only the synthesised names need care, because those of the lazy fields come behind
those of all methods, so the new method's names are pushed in before them.  The lazy fields do not meet
each other (`lazyProducts_apart`).  So whatever one of them meets comes from before the new names, is
still the first of its name, and is reported as it was (`collisions_sublist`).
-/
import Mathlib.Data.List.Flatten
import Carryover.Proofs.Model.Tally

namespace Carryover

/-! ## 1. Meetings with more names before -/

/-- The first name that is met is met first with more names behind it. -/
theorem Product.defects_sublist_append (p : Product) (before more : List Product) :
    (p.defects before).Sublist (p.defects (before ++ more)) := by
  unfold Product.defects
  rw [List.find?_append]
  cases before.find? p.meets with
  | none => exact List.nil_sublist _
  | some q => exact List.Sublist.refl _

/-- Names that are not met change nothing. -/
theorem Product.defects_append_of_apart {p : Product} {before more : List Product}
    (h : ∀ q ∈ more, p.meets q = false) : p.defects (before ++ more) = p.defects before := by
  have hnone : more.find? p.meets = none :=
    List.find?_eq_none.mpr fun q hq => by simp [h q hq]
  unfold Product.defects
  rw [List.find?_append, hnone, Option.or_none]

/-- Names that do not meet each other meet only what is before all of them. -/
theorem flatMap_defects_of_apart {before last : List Product}
    (h : last.Pairwise fun q p => p.meets q = false) :
    (withEarlierFrom before last).flatMap (fun e => e.2.defects e.1)
      = last.flatMap (·.defects before) := by
  induction last generalizing before with
  | nil => rfl
  | cons q last ih =>
    obtain ⟨hq, hlast⟩ := List.pairwise_cons.mp h
    have hothers : last.flatMap (·.defects (before ++ [q])) = last.flatMap (·.defects before) :=
      List.flatMap_congr fun p hp => Product.defects_append_of_apart fun r hr =>
        List.mem_singleton.mp hr ▸ hq p hp
    rw [List.flatMap_cons, ← hothers, ← ih hlast]
    rfl

/-- **Names that are pushed in before such names take no meeting away.** -/
theorem collisions_sublist (first more : List Product) {last : List Product}
    (h : last.Pairwise fun q p => p.meets q = false) :
    ((withEarlier (first ++ last)).flatMap fun e => e.2.defects e.1).Sublist
      ((withEarlier (first ++ more ++ last)).flatMap fun e => e.2.defects e.1) := by
  rw [withEarlier_append, withEarlier_append, withEarlier_append, List.flatMap_append,
    List.flatMap_append, List.flatMap_append, flatMap_defects_of_apart h, flatMap_defects_of_apart h]
  refine List.Sublist.append (List.sublist_append_left ..) ?_
  exact List.Sublist.flatMap_right last fun p _ => p.defects_sublist_append first more

/-! ## 2. One more method -/

namespace Spec

variable (s : Spec) (x : Method)

/-- Lazy updaters do not meet each other. -/
theorem lazyProducts_apart :
    ((firsts (·.name) s.lazyFields).map Field.product).Pairwise fun q p => p.meets q = false := by
  have hinjective : ∀ a b, lazyUpdaterName a = lazyUpdaterName b → a = b := fun a b h => by
    simpa [lazyUpdaterName, ← String.toList_inj] using h
  refine List.pairwise_map.mpr ((List.pairwise_map.mp (nodup_map_firsts (·.name) s.lazyFields)).imp ?_)
  intro f g hne
  have hname : lazyUpdaterName g.name ≠ lazyUpdaterName f.name := fun h => hne (hinjective _ _ h).symm
  simp [Product.meets, Field.product, hname]

/-- The synthesised names have all their defects with one more method. -/
theorem nameDefects_sublist_withMethod :
    s.nameDefects.Sublist (s.withMethod x).nameDefects := by
  have hstate : (s.withMethod x).hasState = s.hasState := rfl
  unfold nameDefects
  rw [hstate]
  cases s.hasState with
  | false => exact List.Sublist.refl _
  | true =>
    -- The names of the new method come before those of the lazy fields, unless it is repeated.
    have hproducts : (s.withMethod x).products
        = [⟨.types, s.component, .component⟩, ⟨.types, s.containerName, .container⟩] ++
          (firsts (·.name) s.methods).flatMap Method.products ++
          (if s.methods.any (·.name == x.name) then [] else [x]).flatMap Method.products ++
          (firsts (·.name) s.lazyFields).map Field.product := by
      show _ ++ (firsts (·.name) (s.methods ++ [x])).flatMap Method.products ++ _ = _
      rw [firsts_concat, List.flatMap_append, ← List.append_assoc]
      rfl
    rw [hproducts]
    exact collisions_sublist _ _ s.lazyProducts_apart

/-- **A spec has all its defects with one more method.** -/
theorem defects_sublist_withMethod : s.defects.Sublist (s.withMethod x).defects := by
  have hmethods : (s.withMethod x).methods = s.methods ++ [x] := rfl
  have halone : s.methods.flatMap (·.defects s)
      = s.methods.flatMap (·.defects (s.withMethod x)) := rfl
  have hnames := s.nameDefects_sublist_withMethod x
  unfold defects
  rw [hmethods, halone, List.flatMap_append, withEarlier_concat, List.flatMap_append]
  refine List.Sublist.append (List.Sublist.append (List.Sublist.append ?_ ?_) ?_) hnames
  · exact List.Sublist.refl _
  · exact List.sublist_append_left ..
  · exact List.sublist_append_left ..

/-! ## 3. More methods -/

/-- Adding methods one by one puts them behind the others. -/
theorem foldl_withMethod (xs : List Method) :
    xs.foldl withMethod s = { s with methods := s.methods ++ xs } := by
  induction xs generalizing s with
  | nil => rw [List.append_nil]; rfl
  | cons x xs ih =>
    rw [List.foldl_cons, ih]
    show { s with methods := s.methods ++ [x] ++ xs } = _
    rw [List.append_assoc, List.singleton_append]

/-- A spec has all its defects with more methods. -/
theorem defects_sublist_foldl (xs : List Method) :
    s.defects.Sublist (xs.foldl withMethod s).defects := by
  induction xs generalizing s with
  | nil => exact List.Sublist.refl _
  | cons x xs ih => exact (s.defects_sublist_withMethod x).trans (ih _)

end Spec

/-- **One more method makes no defect disappear.**  All that was reported is reported as before and in
the same order.  So a spec that is refused is refused with more methods, and one that is accepted is
accepted without its last ones. -/
theorem reported_sublist_withMethod (s : Spec) :
    (∀ x, s.reported.Sublist (s.withMethod x).reported) ∧
    (∀ xs : List Method, s.check ≠ .ok () → (xs.foldl Spec.withMethod s).check ≠ .ok ()) ∧
    ∀ n, s.check = .ok () → { s with methods := s.methods.take n }.check = .ok () := by
  have haccepted : ∀ (t : Spec) (xs : List Method),
      (xs.foldl Spec.withMethod t).check = .ok () → t.check = .ok () := by
    intro t xs h
    rw [Spec.check_eq_ok_iff] at h ⊢
    exact List.sublist_nil.mp (h ▸ t.defects_sublist_foldl xs)
  refine ⟨fun x => ?_, fun xs => mt (haccepted s xs), fun n h => ?_⟩
  · rw [Spec.reported_eq_defects, Spec.reported_eq_defects]
    exact s.defects_sublist_withMethod x
  · refine haccepted _ (s.methods.drop n) ?_
    rw [Spec.foldl_withMethod, List.take_append_drop]
    exact h

/-- A counter with a lazy field, whose methods have these names. -/
def counterWith (names : List String) : Spec :=
  { Spec.ofComponent "Counter" with
    fields := [⟨"count_async", "i32", true⟩]
    methods := names.map fun name => ⟨name, [], []⟩ }

/-- A method with the name of the lazy updater is refused, also beside a second method of which an
entry point has this name.  Two methods with names of their own are accepted, and so is the first of
them. -/
theorem check_counterWith :
    (counterWith ["lazy_update_count_async"]).check ≠ .ok () ∧
      ([⟨"lazy_update_count", [], []⟩].foldl Spec.withMethod
        (counterWith ["lazy_update_count_async"])).check ≠ .ok () ∧
      (counterWith ["bump", "reset"]).check = .ok () ∧
      (counterWith ["bump"]).check = .ok () := by
  have hrefused : (counterWith ["lazy_update_count_async"]).check ≠ .ok () := by
    rw [ne_eq, Spec.check_eq_ok_iff]
    decide
  have haccepted : (counterWith ["bump", "reset"]).check = .ok () := by
    rw [Spec.check_eq_ok_iff]
    decide
  exact ⟨hrefused, (reported_sublist_withMethod _).2.1 _ hrefused, haccepted,
    (reported_sublist_withMethod _).2.2 1 haccepted⟩

end Carryover
