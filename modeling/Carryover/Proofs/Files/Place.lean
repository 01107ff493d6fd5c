/-
# Files outside a folder

A path has a place, whatever stands there: the location that its way leads to if every step can be
taken and there are no links (`Path.place`).  On a plain system a path that is followed leads to its
place (`Tree.eq_place_of_locate`), and a name in a folder leads to that name in the place of the
folder.

So a file that is saved in a folder is inside the place of the folder, and files outside stay as they
are, whether saving succeeds or not (`Tree.read_of_save_outside`).
-/
import Carryover.Proofs.Files.Kept

namespace Carryover.Files

variable {base : List String} {t u : Tree base} {p q : Path} {l : Location base} {name s : String}

/-! ## 1. Places -/

/-- A name in a folder is below it. -/
theorem Location.below?_enter (l : Location base) (name : String) :
    l.below? (l.enter name) = some [name] := by
  simp [below?, enter]

namespace Path

/-- The place of a path. -/
def place (p : Path) : Location base :=
  p.way.foldl Host.plain.step (Tree.start p)

/-- The place of the path is not in the place of the folder. -/
def IsOutside (p folder : Path) (base : List String) : Prop :=
  (folder.place : Location base).below? p.place = none

instance (p folder : Path) (base : List String) : Decidable (p.IsOutside folder base) :=
  inferInstanceAs (Decidable (_ = _))

/-- The dot behind a slash leads nowhere else. -/
theorem foldl_steps (p : Path) :
    p.steps.foldl Host.plain.step (Tree.start p) = (p.place : Location base) := by
  unfold steps place
  split
  · exact List.foldl_append
  · rw [List.append_nil]

/-- The place of a name in a folder. -/
theorem place_join (p : Path) (h : IsName name) :
    (p.join name).place = (p.place : Location base).enter name := by
  unfold place Tree.start
  rw [way_join p h, isRooted_join p h, List.foldl_append]
  rfl

/-- A file outside is none of the folder. -/
theorem IsOutside.place_ne (h : q.IsOutside p base) :
    q.place ≠ (p.place : Location base).enter name := by
  intro heq
  unfold IsOutside at h
  rw [heq, Location.below?_enter] at h
  exact absurd h nofun

end Path

namespace Tree

/-- **A path that leads somewhere leads to the place that its steps spell.** -/
theorem eq_foldl_of_follow {start : Location base} {steps : List Part}
    (h : t.follow start steps = .ok l) : l = steps.foldl Host.plain.step start := by
  induction steps generalizing start with
  | nil => exact (Except.ok.inj h).symm
  | cons part rest ih =>
    obtain ⟨-, -, hrest⟩ := follow_cons_eq_ok_iff.mp h
    exact ih hrest

/-- When a path leads somewhere, if its length does not matter. -/
theorem resolve_eq_ok_iff {steps : List Part} {host : Host base} :
    t.resolve p steps host = .ok l ↔ p.text ≠ "" ∧ t.follow (start p) steps host = .ok l := by
  unfold resolve start
  by_cases hempty : p.text = "" <;> simp [hempty]

/-- When a path leads somewhere. -/
theorem locate_eq_ok_iff {steps : List Part} {host : Host base} :
    t.locate p steps host = .ok l ↔
      refusal? p = none ∧ p.text ≠ "" ∧ t.follow (start p) steps host = .ok l := by
  unfold locate
  cases refusal? p with
  | some trouble => simp
  | none => simp [resolve_eq_ok_iff]

/-- What stands at a path stands at its place. -/
theorem eq_place_of_locate (h : t.locate p p.steps = .ok l) : l = p.place := by
  obtain ⟨-, -, hfollow⟩ := locate_eq_ok_iff.mp h
  rw [← p.foldl_steps]
  exact eq_foldl_of_follow hfollow

/-- So does what stands behind its way. -/
theorem eq_place_of_locate_way (h : t.locate p p.way = .ok l) : l = p.place :=
  eq_foldl_of_follow (locate_eq_ok_iff.mp h).2.2

/-! ## 2. What saving leaves alone -/

/-- What saving does, whether it succeeds or not: the folders are made, and then perhaps the file is
written. -/
theorem save_cases (t : Tree base) (p : Path) (s : String) :
    (t.save p s).1 = (t.prepare p).1 ∨
      ∃ l, (t.prepare p).1.put p (bytesOf s) = .ok ((t.save p s).1, l) := by
  unfold save
  rcases hprepared : t.prepare p with ⟨mid, e | ⟨⟩⟩
  · exact .inl rfl
  · show (mid.update p s).1 = mid ∨ ∃ l, mid.put p (bytesOf s) = .ok ((mid.update p s).1, l)
    rcases hupdate : mid.update p s with ⟨v, e | w⟩
    · exact .inl (eq_of_update_error hupdate)
    · rcases update_cases hupdate with ⟨-, rfl, -⟩ | ⟨-, l, hput, -⟩
      · exact .inl rfl
      · exact .inr ⟨l, hput⟩

/-- **Saving a file keeps all folders, and everything that is not at the place of the file.** -/
theorem kept_of_save (t : Tree base) (p : Path) (s : String) :
    t.KeepsFolders (t.save p s).1 ∧
      ∀ k e, k ≠ p.place → t.get? k = some e → (t.save p s).1.get? k = some e := by
  have hprepare := extends_prepare t p .plain
  rcases t.save_cases p s with hsame | ⟨l, hput⟩
  · rw [hsame]
    exact ⟨hprepare.keepsFolders, fun k e _ hk => hprepare k e hk⟩
  · obtain ⟨hloc, -, hkept, helse⟩ := kept_of_put hput
    refine ⟨hprepare.keepsFolders.trans hkept, fun k e hne hk => ?_⟩
    rw [helse k (eq_place_of_locate hloc ▸ hne)]
    exact hprepare k e hk

/-- **A file outside a folder is read as before, once a file is saved in the folder.** -/
theorem read_of_save_outside {bytes : List UInt8} (hname : IsName name) (hout : q.IsOutside p base)
    (hread : t.read q = .ok bytes) : (t.save (p.join name) s).1.read q = .ok bytes := by
  obtain ⟨hfolders, hrest⟩ := t.kept_of_save (p.join name) s
  obtain ⟨k, hk, hheld⟩ := read_eq_ok_iff.mp hread
  have hne : k ≠ (p.join name).place := by
    rw [eq_place_of_locate hk, p.place_join hname]
    exact hout.place_ne
  exact read_eq_ok_iff.mpr ⟨k, locate_of_keepsFolders hfolders hk, hrest k _ hne hheld⟩

end Tree

end Carryover.Files
