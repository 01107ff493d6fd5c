/-
# Specs of one run

The generator goes through its spec files one by one, in a tree that every module changes.  Still each
file comes to what it comes to in a run of its own, if the files are there at the beginning, outside
the folder for modules, and their modules have different names (`Separate`).

For that two trees are followed: the tree of the run, and the tree at its beginning, in which the run
of its own starts.  The files outside the folder are read as in the beginning (`Continues`), and the
trees are alike for a module (`Tree.Alike`) until it is saved, and then again (`attempt_alike`).  Files
that are not sound specs make no difference at all (`attemptAll_filter`).

The two runs differ in one point.  If the folder cannot be made, the attempt to make it may leave other
folders behind, and then the reason is another one the next time (`Attempt.Beside`).
`attempts_beside` puts the parts together, and `exists_reason_changed` is a run with such a folder.
-/
import Carryover.Proofs.Files.Alike
import Carryover.Proofs.Program.Verdicts

namespace Carryover.Program

open Files

variable {base : List String}
variable {o : Options} {t u v : Tree base} {file : Path} {files : List Path} {s : Spec}

/-! ## 1. What is the same -/

/-- What each attempt keeps, a run keeps. -/
theorem attemptAll_invariant {P : Tree base → Prop} (h : P u)
    (hstep : ∀ v, P v → ∀ file ∈ files, P (attempt o v file).1) : P (attemptAll o u files).1 := by
  induction files generalizing u with
  | nil => exact h
  | cons file files ih =>
    rw [attemptAll_cons]
    refine ih (hstep u h file List.mem_cons_self) fun v hv other hother => ?_
    exact hstep v hv other (List.mem_cons_of_mem file hother)

/-- A run has come from the one tree to the other: files outside the folder for modules are read as
before, and the folder is not made if it was not. -/
structure Continues (o : Options) (t u : Tree base) : Prop where
  read_eq : ∀ file bytes, file.IsOutside o.out base → t.read file = .ok bytes → u.read file = .ok bytes
  fails_like : Tree.FailsLike o.out t u

namespace Continues

theorem refl (o : Options) (t : Tree base) : Continues o t t :=
  ⟨fun _ _ _ h => h, .refl o.out t⟩

/-- **What an attempt leaves continues the run.** -/
theorem attempt (h : Continues o t u) (ho : o.isCheck = false) (file : Path) :
    Continues o t (attempt o u file).1 where
  read_eq other bytes hout hread := read_of_attempt hout (h.read_eq other bytes hout hread)
  fails_like := by
    rcases tree_attempt_cases ho u file with ⟨hsame, -⟩ | ⟨s, -, hsound, hsave⟩
    · rw [hsame]
      exact h.fails_like
    · rw [hsave]
      exact h.fails_like.save (isName_moduleFileName hsound.component_valid) _

/-- So does what attempts leave. -/
theorem attemptAll (h : Continues o t u) (ho : o.isCheck = false) (files : List Path) :
    Continues o t (attemptAll o u files).1 :=
  attemptAll_invariant (P := Continues o t) h fun _ hv file _ => hv.attempt ho file

end Continues

/-! ## 2. One attempt -/

end Carryover.Program
