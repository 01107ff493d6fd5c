/-
# The modules that a run leaves

Every spec has its module in a file of the one folder for modules, named for the component in snake
case.  Components whose names differ in capitals only have the same file: `HTTPView` and `Httpview`
are both `httpview_state.rs`.

A run without a failure saves the modules of its specs one after the other (`Places`).  Each module
stays while modules of other names are saved (`Places.read_of_forall_ne`), so a file holds in the
end the module of the last spec that has it (`Places.read_of_lastNamed`).  A spec that is followed
by another one of the same file has lost its module, and the run does not tell.
-/
import Carryover.Program.Generator
import Carryover.Proofs.Artifact.Names
import Carryover.Proofs.Files.Kept
import Carryover.Proofs.Text.Case

namespace Carryover.Program

open Files

variable {base : List String}

/-! ## 1. Files of modules -/

/-- The file of a module has a name of its own in the folder. -/
theorem isName_moduleFileName {component : String} (h : isIdentifier component = true) :
    IsName (moduleFileName component) := by
  have hword : ∀ c ∈ Text.Case.toSnake component.toList, Text.isWordChar c = true :=
    Text.Case.isWordChar_toSnake (isWordChar_of_isIdentifier h)
  have htext : (moduleFileName component).toList =
      Text.Case.toSnake component.toList ++ "_state.rs".toList := by
    simp [moduleFileName]
  -- A name with a letter in it is none of those that are no names.
  have hne : ∀ name : String, 's' ∉ name.toList → moduleFileName component ≠ name := by
    rintro name hs rfl
    rw [htext] at hs
    exact hs (List.mem_append_right _ (by decide))
  refine ⟨hne "" (by decide), ?_, hne "." (by decide), hne ".." (by decide)⟩
  rintro c hc rfl
  rw [htext] at hc
  rcases List.mem_append.mp hc with hc | hc
  · exact absurd (hword _ hc) (by decide)
  · exact absurd hc (by decide)

/-! ## 2. Modules in place -/

/-- The modules of the specs are saved in turn, from one tree to another. -/
inductive Places (out : Path) : Tree base → List Spec → Tree base → Prop where
  | nil (t : Tree base) : Places out t [] t
  | cons {t u v : Tree base} {s : Spec} {specs : List Spec} {w : Option (Location base)}
      (sound : s.WellFormed)
      (saved : t.save (moduleFile out s) (s.moduleText s.artifacts) = (u, .ok w))
      (rest : Places out u specs v) : Places out t (s :: specs) v

/-- The last of the specs whose module has a name. -/
def lastNamed (name : String) (specs : List Spec) : Option Spec :=
  specs.reverse.find? fun s => moduleFileName s.component = name

/-- A spec in front counts if no later one has the name. -/
theorem lastNamed_cons (name : String) (s : Spec) (specs : List Spec) :
    lastNamed name (s :: specs) = (lastNamed name specs).or
      (if moduleFileName s.component = name then some s else none) := by
  unfold lastNamed
  rw [List.reverse_cons, List.find?_append, List.find?_singleton]
  simp only [decide_eq_true_eq]

theorem lastNamed_eq_none_iff {name : String} {specs : List Spec} :
    lastNamed name specs = none ↔ ∀ s ∈ specs, moduleFileName s.component ≠ name := by
  simp [lastNamed]

/-- What is found is one of the specs, and its module has the name. -/
theorem lastNamed_eq_some {name : String} {specs : List Spec} {last : Spec}
    (h : lastNamed name specs = some last) :
    last ∈ specs ∧ moduleFileName last.component = name :=
  ⟨List.mem_reverse.mp (List.mem_of_find?_eq_some h), by simpa using List.find?_some h⟩

namespace Places

variable {out : Path} {t u : Tree base} {specs : List Spec} {name : String}

/-- The specs are well-formed. -/
theorem sound_of_mem (h : Places out t specs u) {s : Spec} (hs : s ∈ specs) : s.WellFormed := by
  induction h with
  | nil t => exact absurd hs List.not_mem_nil
  | cons sound saved rest ih =>
    rcases List.mem_cons.mp hs with rfl | hs
    · exact sound
    · exact ih hs

/-- **Modules of other names leave a file of the folder as it is.** -/
theorem read_of_forall_ne (h : Places out t specs u) (hname : IsName name)
    (hne : ∀ s ∈ specs, moduleFileName s.component ≠ name) {bytes : List UInt8}
    (hread : t.read (out.join name) = .ok bytes) : u.read (out.join name) = .ok bytes := by
  induction h with
  | nil t => exact hread
  | @cons t u v s specs w sound saved rest ih =>
    obtain ⟨hs, hspecs⟩ := List.forall_mem_cons.mp hne
    have hkept : u.read (out.join name) = .ok bytes :=
      Tree.read_join_of_save (isName_moduleFileName sound.component_valid) hname hs.symm saved hread
    exact ih hspecs hkept

/-- **A file of the folder holds the module of the last spec that has it.** -/
theorem read_of_lastNamed (h : Places out t specs u) {last : Spec}
    (hlast : lastNamed name specs = some last) :
    u.read (out.join name) = .ok (bytesOf (last.moduleText last.artifacts)) := by
  induction h with
  | nil t => exact absurd hlast nofun
  | @cons t u v s specs w sound saved rest ih =>
    rw [lastNamed_cons] at hlast
    cases hrest : lastNamed name specs with
    | some later =>
      rw [hrest] at hlast
      obtain rfl : later = last := Option.some.inj hlast
      exact ih hrest
    | none =>
      -- No later spec has the name, so this one does, and its module stays.
      rw [hrest, Option.none_or] at hlast
      obtain ⟨rfl, hs⟩ : s = last ∧ moduleFileName s.component = name := by
        split at hlast
        · next hs => exact ⟨Option.some.inj hlast, hs⟩
        · exact absurd hlast nofun
      have hsaved : u.read (out.join name) = .ok (bytesOf (s.moduleText s.artifacts)) := by
        rw [← hs]
        exact Tree.read_of_save saved
      have hname : IsName name := hs ▸ isName_moduleFileName sound.component_valid
      exact rest.read_of_forall_ne hname (lastNamed_eq_none_iff.mp hrest) hsaved

/-- So the file of a spec's module holds the module of one of the specs. -/
theorem exists_last_of_mem (h : Places out t specs u) {s : Spec} (hs : s ∈ specs) :
    ∃ last, lastNamed (moduleFileName s.component) specs = some last ∧
      u.read (moduleFile out s) = .ok (bytesOf (last.moduleText last.artifacts)) := by
  cases hlast : lastNamed (moduleFileName s.component) specs with
  | none => exact absurd rfl (lastNamed_eq_none_iff.mp hlast s hs)
  | some last => exact ⟨last, rfl, h.read_of_lastNamed hlast⟩

/-- **Where the modules have names of their own, none is lost.** -/
theorem read_of_nodup (h : Places out t specs u)
    (hnodup : (specs.map (moduleFileName ·.component)).Nodup) {s : Spec} (hs : s ∈ specs) :
    u.read (moduleFile out s) = .ok (bytesOf (s.moduleText s.artifacts)) := by
  obtain ⟨last, hlast, hread⟩ := h.exists_last_of_mem hs
  obtain ⟨hmem, hname⟩ := lastNamed_eq_some hlast
  obtain rfl : last = s := List.inj_on_of_nodup_map hnodup hmem hs hname
  exact hread

end Places

/-! ## 3. Runs without a failure -/

/-- What the spec files hold, each at its turn. -/
def loads (o : Options) : Tree base → List Path → List (Except LoadError Spec)
  | _, [] => []
  | t, file :: files => loadSpec t file :: loads o (attempt o t file).1 files

section Runs

variable {o : Options} {t : Tree base} {file : Path} {files : List Path}

/-- **What an attempt does that does not fail**: its file holds a well-formed spec, and the module
of this spec is saved. -/
theorem exists_spec_of_attempt (hcheck : o.isCheck = false)
    (h : (attempt o t file).2.isFailure = false) :
    ∃ s w, loadSpec t file = .ok s ∧ s.WellFormed ∧
      t.save (moduleFile o.out s) (s.moduleText s.artifacts) = ((attempt o t file).1, .ok w) := by
  unfold attempt at h ⊢
  cases hload : loadSpec t file with
  | error e =>
    rw [hload] at h
    exact absurd h nofun
  | ok s =>
    simp only [hload, hcheck, Bool.false_eq_true, if_false] at h ⊢
    cases hsynth : s.synthesize with
    | error r =>
      simp only [generateInto, hsynth] at h
      exact absurd h nofun
    | ok a =>
      obtain ⟨hsound, rfl⟩ := Spec.synthesize_eq_ok_iff.mp hsynth
      simp only [generateInto, hsynth] at h ⊢
      rcases hsave : t.save (moduleFile o.out s) (s.moduleText s.artifacts) with ⟨u, e | w⟩
      · rw [hsave] at h
        exact absurd h nofun
      · exact ⟨s, w, rfl, hsound, hsave⟩

/-- The files in turn: the first one, and the others in the tree that it leaves. -/
theorem attemptAll_cons :
    attemptAll o t (file :: files) =
      ((attemptAll o (attempt o t file).1 files).1,
        (attempt o t file).2 :: (attemptAll o (attempt o t file).1 files).2) :=
  rfl

/-- **A run without a failure loads a spec from every file and puts their modules in place.** -/
theorem exists_places_of_attemptAll (hcheck : o.isCheck = false)
    (h : ∀ a ∈ (attemptAll o t files).2, a.isFailure = false) :
    ∃ specs, loads o t files = specs.map .ok ∧
      Places o.out t specs (attemptAll o t files).1 := by
  induction files generalizing t with
  | nil => exact ⟨[], rfl, .nil t⟩
  | cons file files ih =>
    rw [attemptAll_cons] at h ⊢
    obtain ⟨hfirst, hrest⟩ := List.forall_mem_cons.mp h
    obtain ⟨s, w, hload, hsound, hsave⟩ := exists_spec_of_attempt hcheck hfirst
    obtain ⟨specs, hloads, hplaces⟩ := ih hrest
    refine ⟨s :: specs, ?_, .cons hsound hsave hplaces⟩
    rw [loads, hload, hloads, List.map_cons]

/-- The exit code is zero if no attempt failed. -/
theorem exit_ofAttempts_eq_zero_iff {as : List (Attempt base)} :
    (Report.ofAttempts o t as).exit = 0 ↔ ∀ a ∈ as, a.isFailure = false := by
  have hcount : as.countP (·.isFailure) = 0 ↔ ∀ a ∈ as, a.isFailure = false := by
    simp [List.countP_eq_zero]
  rw [← hcount]
  unfold Report.ofAttempts
  by_cases hnone : as.countP (·.isFailure) = 0 <;> simp [hnone]

/-- A run that exits with zero attempted all its files, and no attempt failed. -/
theorem exists_attempts_of_exit {args : List String} (h : (runGenerator args t).exit = 0) :
    ∃ o files, Options.ofArguments? args = some o ∧ specFiles o t = .ok files ∧
      (runGenerator args t).files = (attemptAll o t files).1 ∧
      ∀ a ∈ (attemptAll o t files).2, a.isFailure = false := by
  unfold runGenerator generateAll at h ⊢
  cases hargs : Options.ofArguments? args with
  | none =>
    rw [hargs] at h
    exact absurd h nofun
  | some o =>
    rcases hfiles : specFiles o t with e | _ | ⟨file, files⟩
    · simp only [hargs, hfiles] at h
      exact absurd h nofun
    · simp only [hargs, hfiles] at h
      exact absurd h nofun
    · simp only [hargs, hfiles] at h ⊢
      exact ⟨o, file :: files, rfl, hfiles, rfl, exit_ofAttempts_eq_zero_iff.mp h⟩

/-! ## 4. What a run leaves -/

/-- **The modules after a run that exits with zero.**  Every spec file gave a spec that can be
synthesised, and the file of its module holds the module of the last spec that has this file. -/
theorem module_of_last_after_run {args : List String}
    (hcheck : ∀ o, Options.ofArguments? args = some o → o.isCheck = false)
    (hexit : (runGenerator args t).exit = 0) :
    ∃ o files specs, Options.ofArguments? args = some o ∧ specFiles o t = .ok files ∧
      loads o t files = specs.map .ok ∧
      ∀ s ∈ specs, s.synthesize = .ok s.artifacts ∧
        ∃ last ∈ specs, lastNamed (moduleFileName s.component) specs = some last ∧
          (runGenerator args t).files.read (moduleFile o.out s) =
            .ok (bytesOf (last.moduleText last.artifacts)) := by
  obtain ⟨o, files, hargs, hfiles, htree, hsuccess⟩ := exists_attempts_of_exit hexit
  obtain ⟨specs, hloads, hplaces⟩ := exists_places_of_attemptAll (hcheck o hargs) hsuccess
  refine ⟨o, files, specs, hargs, hfiles, hloads, fun s hs => ⟨?_, ?_⟩⟩
  · exact Spec.synthesize_eq_ok_iff.mpr ⟨hplaces.sound_of_mem hs, rfl⟩
  · obtain ⟨last, hlast, hread⟩ := hplaces.exists_last_of_mem hs
    rw [htree]
    exact ⟨last, (lastNamed_eq_some hlast).1, hlast, hread⟩

end Runs

/-- Two spec files, for components whose names differ in capitals only. -/
def twinFiles : Tree :=
  ⟨[(.inside ["a.json"], .file (bytesOf "[\"HTTPViewSpec\",\"HTTPView\"]")),
    (.inside ["b.json"], .file (bytesOf "[\"HttpviewSpec\",\"Httpview\"]"))]⟩

/-- Arguments that name both. -/
def twinArguments : List String :=
  ["--spec", "a.json", "--spec", "b.json", "--out", "out"]

/-- What `twinArguments` ask for. -/
def twinOptions : Options :=
  ⟨[⟨"a.json"⟩, ⟨"b.json"⟩], none, some ⟨"out"⟩, false, 0⟩

theorem ofArguments?_twinArguments : Options.ofArguments? twinArguments = some twinOptions := by
  decide +kernel

theorem exit_twins : (runGenerator twinArguments twinFiles).exit = 0 := by
  decide +kernel

/-- The run on two components of one file name exits with zero, and what it leaves is the last. -/
theorem module_of_last_after_twins :
    ∃ o files specs, Options.ofArguments? twinArguments = some o ∧
      specFiles o twinFiles = .ok files ∧ loads o twinFiles files = specs.map .ok ∧
      ∀ s ∈ specs, s.synthesize = .ok s.artifacts ∧
        ∃ last ∈ specs, lastNamed (moduleFileName s.component) specs = some last ∧
          (runGenerator twinArguments twinFiles).files.read (moduleFile o.out s) =
            .ok (bytesOf (last.moduleText last.artifacts)) := by
  refine module_of_last_after_run ?_ exit_twins
  intro o ho
  rw [ofArguments?_twinArguments] at ho
  obtain rfl := Option.some.inj ho
  rfl

/-- **A run can lose a module and exit with zero.**  Both components have the file
`httpview_state.rs`, and the module of the first is replaced by that of the second. -/
theorem exists_module_lost :
    ¬ ∀ (args : List String) (t : Tree) (o : Options) (files : List Path) (specs : List Spec),
      Options.ofArguments? args = some o → o.isCheck = false →
      (runGenerator args t).exit = 0 → specFiles o t = .ok files →
      loads o t files = specs.map .ok → ∀ s ∈ specs,
        (runGenerator args t).files.read (moduleFile o.out s) =
          .ok (bytesOf (s.moduleText s.artifacts)) := by
  intro h
  have hfiles : specFiles twinOptions twinFiles = .ok [⟨"a.json"⟩, ⟨"b.json"⟩] := by
    decide +kernel
  have hloads : loads twinOptions twinFiles [⟨"a.json"⟩, ⟨"b.json"⟩] =
      [Spec.ofComponent "HTTPView", Spec.ofComponent "Httpview"].map .ok := by
    decide +kernel
  have hkept := h twinArguments twinFiles twinOptions _ _ ofArguments?_twinArguments rfl exit_twins
    hfiles hloads (Spec.ofComponent "HTTPView") List.mem_cons_self
  exact absurd hkept (by decide +kernel)

end Carryover.Program
