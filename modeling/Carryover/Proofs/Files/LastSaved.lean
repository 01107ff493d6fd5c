/-
# The last text is the one that is held

Texts are saved one after the other under plain paths (`Tree.saveAll`).  Folders and files of earlier
ones may be in the way of later ones, so some of them may not be saved; `Tree.succeeding` tells which
are, each at its turn.

`SavesPlain` says of one text when it is saved and what then changes.  From this follows what a whole
row leaves (`Tree.file_iff_after_saveAll`): every place holds the last text that was saved there, or
what it held in the beginning.  `last_saved_held` puts both together.

The system does not take names of any length, so not every text can be saved that nothing is in the
way of (`exists_name_refused`).
-/
import Carryover.Proofs.Files.Plain

namespace Carryover.Files

/-! ## 1. One text -/

/-- The text that bytes are, if they are one. -/
def textOf? (bytes : List UInt8) : Option String :=
  String.fromUTF8? ⟨bytes.toArray⟩

/-- Bytes are a text if they are its bytes. -/
theorem textOf?_eq_some_iff {bytes : List UInt8} {s : String} :
    textOf? bytes = some s ↔ bytes = bytesOf s := by
  unfold textOf? bytesOf String.fromUTF8?
  constructor
  · intro h
    split at h
    · obtain rfl := Option.some.inj h
      rfl
    · exact absurd h nofun
  · rintro rfl
    have hbytes : (⟨s.toUTF8.data.toList.toArray⟩ : ByteArray) = s.toUTF8 := rfl
    have hvalid : s.toUTF8.IsValidUTF8 := s.isValidUTF8
    rw [hbytes, dif_pos hvalid]
    rfl

/-- A text for a file in the working folder, or below it. -/
structure Draft where
  names : List String
  text : String
  deriving DecidableEq, Repr

namespace Draft

/-- The path of the file. -/
def path (d : Draft) : Path :=
  .plain d.names

/-- The place of the file. -/
def place {base : List String} (d : Draft) : Location base :=
  .inside d.names

end Draft

/-- **How a text is saved.**  It is saved if the system takes its path, no file is where a folder has to
be, and no folder where the file has to be.  Then the file holds it, the folders around are there, and
all other files are as before; it was written unless the file was this very text.  Otherwise all files
are as before.  Once more comes to the same and changes nothing. -/
structure SavesPlain {base : List String} (t : Tree base) (d : Draft) : Prop where
  succeeds_iff : (∃ u w, t.save d.path d.text = (u, .ok w)) ↔
    WithinLimits d.names ∧ (∀ around, IsAround around d.names → t.CanBeFolder (.inside around)) ∧
      t.get? d.place ≠ some .folder
  held : ∀ u w, t.save d.path d.text = (u, .ok w) →
    u.get? d.place = some (.file (bytesOf d.text))
  folders : ∀ u w, t.save d.path d.text = (u, .ok w) →
    ∀ around, IsAround around d.names → u.get? (.inside around) = some .folder
  others : ∀ u w, t.save d.path d.text = (u, .ok w) →
    ∀ l, l ≠ d.place → ∀ bytes, u.get? l = some (.file bytes) ↔ t.get? l = some (.file bytes)
  written_iff : ∀ u w, t.save d.path d.text = (u, .ok w) →
    (w ≠ none ↔ t.get? d.place = none ∨ ∃ bytes, t.get? d.place = some (.file bytes) ∧
      (textOf? bytes = none ∨ ∃ before, textOf? bytes = some before ∧ before ≠ d.text))
  written_place : ∀ u l, t.save d.path d.text = (u, .ok (some l)) → l = d.place
  failed : ∀ u e, t.save d.path d.text = (u, .error e) →
    ∀ l bytes, u.get? l = some (.file bytes) ↔ t.get? l = some (.file bytes)
  again : ∀ u w, t.save d.path d.text = (u, .ok w) → u.save d.path d.text = (u, .ok none)
  failed_again : ∀ u e, t.save d.path d.text = (u, .error e) →
    ∃ e', u.save d.path d.text = (u, .error e')

section Saves

variable {base : List String} {t u : Tree base} {d : Draft} {w : Option (Location base)}
  {l : Location base} {bytes : List UInt8}

/-- Other files than the one of a text that was saved are as before. -/
theorem file_iff_of_saved (hplain : ArePlain d.names) (h : t.save d.path d.text = (u, .ok w))
    (hl : l ≠ d.place) : u.get? l = some (.file bytes) ↔ t.get? l = some (.file bytes) := by
  have hplace : d.path.place = (d.place : Location base) := Path.place_plain hplain.isName
  rcases (Tree.saved_of_save h).elsewhere l (by rwa [hplace]) with hsame | ⟨hnone, hfolder, -⟩
  · rw [hsame]
  · simp [hnone, hfolder]

/-- **A text for a plain path is saved like this.** -/
theorem savesPlain (hplain : ArePlain d.names) : SavesPlain t d := by
  have hplace : d.path.place = (d.place : Location base) := Path.place_plain hplain.isName
  have hsucceeds := Tree.save_plain_ok_iff (t := t) (s := d.text) hplain
  refine
    { succeeds_iff := hsucceeds
      held := fun u w h => hplace ▸ (Tree.saved_of_save h).entry_eq
      folders := fun u w h => ((Tree.saved_of_save h).folders_of_plain hplain).2
      others := fun u w h l hl bytes => file_iff_of_saved hplain h hl
      written_iff := fun u w h => ?_
      written_place := fun u l h => ?_
      failed := fun u e h l bytes => (Tree.addsFolders_of_unsaved h l).file_iff
      again := fun u w => Tree.save_again
      failed_again := fun u e => Tree.unsaved_again }
  · have hfree := (hsucceeds.mp ⟨u, w, h⟩).2.2
    rw [(Tree.saved_of_save h).written_eq, hplace]
    rcases hentry : t.get? d.place with _ | _ | bytes
    · simp
    · exact absurd hentry hfree
    · -- The file is this very text if its bytes are those of the text.
      have hsame : bytes = bytesOf d.text ↔ textOf? bytes = some d.text :=
        textOf?_eq_some_iff.symm
      cases htext : textOf? bytes <;> simp [htext, hsame]
  · have hwritten := (Tree.saved_of_save h).written_eq
    split at hwritten
    · exact absurd hwritten nofun
    · exact (Option.some.inj hwritten).trans hplace

end Saves

/-! ## 2. One text after the other -/

namespace Tree

variable {base : List String}

/-- The tree after texts were saved in turn, or were not. -/
def saveAll : Tree base → List Draft → Tree base
  | t, [] => t
  | t, d :: ds => (t.save d.path d.text).1.saveAll ds

/-- The texts that are saved when it is their turn. -/
def succeeding : Tree base → List Draft → List Draft
  | _, [] => []
  | t, d :: ds =>
    match t.save d.path d.text with
    | (u, .ok _) => d :: u.succeeding ds
    | (u, .error _) => u.succeeding ds

/-- The last of the texts for a place. -/
def lastAt (l : Location base) (ds : List Draft) : Option Draft :=
  ds.reverse.find? (·.place = l)

theorem lastAt_cons (l : Location base) (d : Draft) (ds : List Draft) :
    lastAt l (d :: ds) = (lastAt l ds).or (if d.place = l then some d else none) := by
  unfold lastAt
  rw [List.reverse_cons, List.find?_append, List.find?_singleton]
  simp only [decide_eq_true_eq]

theorem saveAll_append (t : Tree base) (ds ds' : List Draft) :
    t.saveAll (ds ++ ds') = (t.saveAll ds).saveAll ds' := by
  induction ds generalizing t with
  | nil => rfl
  | cons d ds ih => exact ih _

/-- **What a row of texts leaves**: each place holds the last text that was saved there, or what it held
in the beginning. -/
theorem file_iff_after_saveAll (t : Tree base) {ds : List Draft} (h : ∀ d ∈ ds, ArePlain d.names)
    (l : Location base) (bytes : List UInt8) :
    (t.saveAll ds).get? l = some (.file bytes) ↔
      match lastAt l (t.succeeding ds) with
      | some d => bytes = bytesOf d.text
      | none => t.get? l = some (.file bytes) := by
  induction ds generalizing t with
  | nil => exact Iff.rfl
  | cons d ds ih =>
    obtain ⟨hd, hds⟩ := List.forall_mem_cons.mp h
    unfold saveAll succeeding
    rcases hsave : t.save d.path d.text with ⟨u, e | w⟩
    · -- The text is not saved, so nothing has changed that counts.
      simp only
      rw [ih u hds]
      cases lastAt l (u.succeeding ds) with
      | some last => exact Iff.rfl
      | none => exact (savesPlain hd).failed u e hsave l bytes
    · simp only
      rw [ih u hds, lastAt_cons]
      cases lastAt l (u.succeeding ds) with
      | some last => exact Iff.rfl
      | none =>
        by_cases hl : d.place = l
        · subst hl
          simp [(savesPlain hd).held u w hsave, eq_comm]
        · simpa [hl] using (savesPlain hd).others u w hsave l (Ne.symm hl) bytes

/-- **The last text once more** changes nothing. -/
theorem saveAll_twice (t : Tree base) (ds : List Draft) (d : Draft) :
    t.saveAll (ds ++ [d, d]) = t.saveAll (ds ++ [d]) := by
  rw [saveAll_append, saveAll_append]
  show (((t.saveAll ds).save d.path d.text).1.save d.path d.text).1 = _
  rcases hsave : (t.saveAll ds).save d.path d.text with ⟨u, e | w⟩
  · obtain ⟨e', hagain⟩ := unsaved_again hsave
    rw [hagain]
    show u = ((t.saveAll ds).save d.path d.text).1
    rw [hsave]
  · rw [save_again hsave]
    show u = ((t.saveAll ds).save d.path d.text).1
    rw [hsave]

end Tree

/-- **The last text is the one that is held.**  Every text for a plain path is saved like `SavesPlain`
says, whatever was saved before.  So after any row of texts every place holds the last one that was
saved there, or what it held in the beginning; and the last one again changes nothing. -/
theorem last_saved_held {base : List String} :
    (∀ (t : Tree base) (d : Draft), ArePlain d.names → SavesPlain t d) ∧
    (∀ (t : Tree base) (ds : List Draft), (∀ d ∈ ds, ArePlain d.names) →
      ∀ (l : Location base) (bytes : List UInt8),
        (t.saveAll ds).get? l = some (.file bytes) ↔
          match Tree.lastAt l (t.succeeding ds) with
          | some d => bytes = bytesOf d.text
          | none => t.get? l = some (.file bytes)) ∧
    ∀ (t : Tree base) (ds : List Draft) (d : Draft), t.saveAll (ds ++ [d, d]) = t.saveAll (ds ++ [d]) :=
  ⟨fun _ _ => savesPlain, fun t _ => t.file_iff_after_saveAll, Tree.saveAll_twice⟩

/-- Texts that are in each other's way: a file is where a folder has to be for the second, and a folder
where the file has to be for the last. -/
def fourDrafts : List Draft :=
  [⟨["a", "b"], "1"⟩, ⟨["a"], "2"⟩, ⟨["a", "b"], "3"⟩, ⟨["a", "b", "c"], "4"⟩]

/-- The second and the last are not saved, and the file holds the third. -/
theorem held_after_fourDrafts :
    (∀ d ∈ fourDrafts, ArePlain d.names) ∧
    (.empty : Tree).succeeding fourDrafts = [⟨["a", "b"], "1"⟩, ⟨["a", "b"], "3"⟩] ∧
    ((.empty : Tree).saveAll fourDrafts).get? (.inside ["a", "b"]) = some (.file (bytesOf "3")) := by
  have hnames : ∀ n ∈ ["a", "b", "c"], IsName n := by
    intro n hn
    simp only [List.mem_cons, List.not_mem_nil, or_false] at hn
    rcases hn with rfl | rfl | rfl <;> exact ⟨by decide, by simp, by decide, by decide⟩
  have hplain : ∀ d ∈ fourDrafts, ArePlain d.names := by
    intro d hd
    have hsub : d.names ≠ [] ∧ ∀ n ∈ d.names, n ∈ ["a", "b", "c"] := by
      revert d
      decide
    exact ⟨hsub.1, fun n hn => hnames n (hsub.2 n hn)⟩
  have hsucceeding :
      (.empty : Tree).succeeding fourDrafts = [⟨["a", "b"], "1"⟩, ⟨["a", "b"], "3"⟩] := by
    decide +kernel
  refine ⟨hplain, hsucceeding, ?_⟩
  refine (last_saved_held.2.1 .empty fourDrafts hplain _ _).mpr ?_
  rw [hsucceeding]
  rfl

/-- A text for a file whose name is longer than the system takes. -/
def longNamed : Draft :=
  ⟨[String.ofList (List.replicate 256 'a')], "x"⟩

/-- **Not every text is saved that nothing is in the way of**: the name may be too long. -/
theorem exists_name_refused :
    ¬ ∀ (t : Tree) (d : Draft), ArePlain d.names →
      ((∃ u w, t.save d.path d.text = (u, .ok w)) ↔
        (∀ around, IsAround around d.names → t.CanBeFolder (.inside around)) ∧
          t.get? d.place ≠ some .folder) := by
  intro h
  have hplain : ArePlain longNamed.names := by
    refine ⟨List.cons_ne_nil _ _, List.forall_mem_singleton.mpr ?_⟩
    refine ⟨by decide +kernel, fun c hc => ?_, by decide +kernel, by decide +kernel⟩
    rw [String.toList_ofList] at hc
    rw [List.eq_of_mem_replicate hc]
    decide
  have hopen : ∀ l : Location, Tree.empty.CanBeFolder l := by
    intro l bytes hfile
    cases habove : l.isAbove <;> simp [Tree.get?, Tree.empty, Keyed.get?, habove] at hfile
  have hsaved := (h .empty longNamed hplain).mpr ⟨fun _ _ => hopen _, by decide +kernel⟩
  obtain ⟨hlimits, -⟩ := (Tree.save_plain_ok_iff hplain).mp hsaved
  exact absurd (hlimits.name_short _ List.mem_cons_self) (by decide +kernel)

end Carryover.Files
