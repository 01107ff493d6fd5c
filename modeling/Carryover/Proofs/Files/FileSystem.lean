/-
# Trees that are file systems

A tree is a file system (`Tree.IsFileSystem`) if it lists every location once, under names that the
system takes, with a folder around it.  The tree with nothing in it is one, and whatever is saved in
a file system leaves one (`Tree.IsFileSystem.save`), because a path leads from folder to folder.

In a file system the order of the list makes no difference (`Tree.IsFileSystem.get?_of_perm`), and the
names of a location lead to it (`Tree.IsFileSystem.follow_names`).
-/
import Carryover.Proofs.Files.Plain

namespace Carryover

/-! ## 1. Keys that are listed once -/

namespace Keyed

variable {κ α : Type} [DecidableEq κ] {es fs : Keyed κ α} {k : κ} {a : α}

/-- What a key has is what is listed with it. -/
theorem get?_eq_some_iff (h : (es.map Prod.fst).Nodup) : es.get? k = some a ↔ (k, a) ∈ es := by
  induction es with
  | nil => simp [get?]
  | cons e es ih =>
    obtain ⟨hfresh, hrest⟩ := List.nodup_cons.mp h
    have hcons : get? (e :: es) k = if e.1 = k then some e.2 else get? es k := by
      unfold get?
      rw [List.find?_cons]
      by_cases hk : e.1 = k <;> simp [hk]
    rw [hcons, List.mem_cons]
    split
    · next hk =>
      subst hk
      have hnot : (e.1, a) ∉ es := fun hmem => hfresh (List.mem_map.mpr ⟨_, hmem, rfl⟩)
      simp [hnot, Prod.ext_iff, eq_comm]
    · next hk =>
      have hne : (k, a) ≠ e := fun heq => hk (congrArg Prod.fst heq).symm
      rw [ih hrest]
      simp [hne]

/-- So the order of the list makes no difference. -/
theorem get?_of_perm (h : (es.map Prod.fst).Nodup) (hperm : List.Perm fs es) (k : κ) :
    get? fs k = get? es k := by
  have h' : (fs.map Prod.fst).Nodup := (hperm.map Prod.fst).nodup_iff.mpr h
  refine Option.ext fun a => ?_
  rw [get?_eq_some_iff h', get?_eq_some_iff h, hperm.mem_iff]

/-- A key is listed once after it was put. -/
theorem nodup_put (h : (es.map Prod.fst).Nodup) (k : κ) (a : α) :
    ((es.put k a).map Prod.fst).Nodup := by
  unfold put
  rw [List.map_cons]
  refine List.nodup_cons.mpr ⟨?_, h.sublist (List.filter_sublist.map Prod.fst)⟩
  simp [List.mem_filter]

end Keyed

namespace Files

variable {base : List String} {t u : Tree base} {l start : Location base} {p : Path} {e : Entry}
  {s name : String} {names around way : List String} {steps : List Part} {bytes : List UInt8}
  {host : Host base}

/-! ## 2. File systems -/

/-- A name is as the system takes it. -/
def IsShortName (name : String) : Prop :=
  IsName name ∧ name.utf8ByteSize ≤ Tree.longestName

/-- The location can be in the tree: names for it are there, and there is a folder around it. -/
structure Tree.Fits (t : Tree base) (l : Location base) : Prop where
  isName : ∀ n ∈ l.names, IsShortName n
  around : l.isAbove = false → t.get? l.up = some .folder

/-- **A file system** lists locations that fit, each once, and none of the folders around the working
folder, which are there anyway. -/
structure Tree.IsFileSystem (t : Tree base) : Prop where
  nodup : (t.entries.map Prod.fst).Nodup
  isName_base : ∀ n ∈ base, IsShortName n
  apart : ∀ e ∈ t.entries, e.1.isAbove = false
  fits : ∀ e ∈ t.entries, t.Fits e.1

/-- The links of a system are where no folder and no file is. -/
def Host.Suits (host : Host base) (t : Tree base) : Prop :=
  ∀ l e, t.get? l = some e → host.real l = l

namespace Location

/-- Around a name in a folder is the folder. -/
theorem up_enter (l : Location base) (name : String) : (l.enter name).up = l := by
  simp [enter, up]

theorem isAbove_iff : l.isAbove = true ↔ l.names <+: base :=
  List.isPrefixOf_iff_prefix

/-- Around a folder around the working folder is another one. -/
theorem isAbove_up (h : l.isAbove = true) : l.up.isAbove = true :=
  isAbove_iff.mpr ((List.dropLast_prefix _).trans (isAbove_iff.mp h))

end Location

/-- What a way calls names are names. -/
theorem Path.isName_of_mem_way (h : .name s ∈ p.way) : IsName s := by
  obtain ⟨piece, hpiece, hpart⟩ := List.mem_map.mp h
  obtain ⟨hmem, hne⟩ := List.mem_filter.mp hpiece
  unfold Part.ofText at hpart
  split at hpart
  · exact absurd hpart nofun
  · next hhere =>
    split at hpart
    · exact absurd hpart nofun
    · next hup =>
      obtain rfl := Part.name.inj hpart
      exact ⟨of_decide_eq_true hne, no_slash_of_mem_pieces hmem, hhere, hup⟩

namespace Tree

/-- The tree with nothing in it is a file system. -/
theorem isFileSystem_empty (hbase : ∀ n ∈ base, IsShortName n) :
    (empty : Tree base).IsFileSystem where
  nodup := List.nodup_nil
  isName_base := hbase
  apart _ he := absurd he List.not_mem_nil
  fits _ he := absurd he List.not_mem_nil

/-- The names of the working folder where none are given are names. -/
theorem isShortName_defaultBase : ∀ n ∈ defaultBase, IsShortName n := by
  intro n hn
  have hcases : n = "tmp" ∨ n = "work" := by simpa [defaultBase] using hn
  rcases hcases with rfl | rfl <;>
    exact ⟨⟨by decide, by simp, by decide, by decide⟩, by decide⟩

namespace IsFileSystem

/-- What stands somewhere is listed, but for the folders around the working folder. -/
theorem get?_eq_some_iff (h : t.IsFileSystem) (hl : l.isAbove = false) :
    t.get? l = some e ↔ (l, e) ∈ t.entries := by
  unfold get?
  rw [hl, if_neg Bool.false_ne_true, Keyed.get?_eq_some_iff h.nodup]

/-- **The order of the list makes no difference.** -/
theorem get?_of_perm (h : t.IsFileSystem) (hperm : u.entries.Perm t.entries) (l : Location base) :
    u.get? l = t.get? l := by
  unfold get?
  rw [Keyed.get?_of_perm h.nodup hperm]

theorem of_perm (h : t.IsFileSystem) (hperm : u.entries.Perm t.entries) : u.IsFileSystem where
  nodup := (hperm.map Prod.fst).nodup_iff.mpr h.nodup
  isName_base := h.isName_base
  apart f hf := h.apart f (hperm.mem_iff.mp hf)
  fits f hf := by
    have hfits := h.fits f (hperm.mem_iff.mp hf)
    exact ⟨hfits.isName, fun hout => (h.get?_of_perm hperm _).trans (hfits.around hout)⟩

/-- The folders around the working folder fit. -/
theorem fits_of_isAbove (h : t.IsFileSystem) (hl : l.isAbove = true) : t.Fits l where
  isName n hn := h.isName_base n ((Location.isAbove_iff.mp hl).subset hn)
  around hout := absurd (hl.symm.trans hout) nofun

/-- Where something stands fits. -/
theorem fits_of_get? (h : t.IsFileSystem) (hl : t.get? l = some e) : t.Fits l := by
  cases habove : l.isAbove with
  | true => exact h.fits_of_isAbove habove
  | false => exact h.fits _ ((h.get?_eq_some_iff habove).mp hl)

/-- Around what stands somewhere is a folder. -/
theorem get?_up (h : t.IsFileSystem) (hl : t.get? l = some e) : t.get? l.up = some .folder := by
  cases habove : l.isAbove with
  | true => exact t.get?_of_isAbove (Location.isAbove_up habove)
  | false => exact (h.fits_of_get? hl).around habove

/-! ## 3. What is saved leaves a file system -/

/-- A step from a folder leads to where something can be. -/
theorem fits_step (h : t.IsFileSystem) (hstart : t.get? start = some .folder) {part : Part}
    (hpart : ∀ s, part = .name s → IsShortName s) : t.Fits (Host.plain.step start part) := by
  have hfits := h.fits_of_get? hstart
  cases part with
  | here => exact hfits
  | up => exact h.fits_of_get? (h.get?_up hstart)
  | name s =>
    refine ⟨List.forall_mem_append.mpr ⟨hfits.isName, ?_⟩, fun _ => ?_⟩
    · exact List.forall_mem_singleton.mpr (hpart s rfl)
    · exact (congrArg t.get? (start.up_enter s)).trans hstart

/-- **Names that are followed lead to where something can be.** -/
theorem fits_of_follow (h : t.IsFileSystem) (hnames : ∀ s, .name s ∈ steps → IsName s)
    (hstart : t.Fits start) (hl : t.follow start steps = .ok l) : t.Fits l := by
  induction steps generalizing start with
  | nil =>
    obtain rfl := Except.ok.inj hl
    exact hstart
  | cons part rest ih =>
    obtain ⟨hfolder, hshort, hrest⟩ := follow_cons_eq_ok_iff.mp hl
    refine ih (fun s hs => hnames s (List.mem_cons_of_mem _ hs)) ?_ hrest
    refine h.fits_step hfolder fun s hs => ⟨hnames s ?_, hshort s hs⟩
    rw [hs]
    exact List.mem_cons_self

/-- The same of a path. -/
theorem fits_of_locate (h : t.IsFileSystem) (hnames : ∀ s, .name s ∈ steps → IsName s)
    (hl : t.locate p steps = .ok l) : t.Fits l :=
  h.fits_of_follow hnames (h.fits_of_get? (t.get?_start p)) (locate_eq_ok_iff.mp hl).2.2

/-- Where something can be, and no folder is, anything can be put. -/
theorem insert (h : t.IsFileSystem) (hl : t.Fits l) (hfree : t.get? l ≠ some .folder) (e : Entry) :
    (t.insert l e).IsFileSystem := by
  have hkept := keepsFolders_insert hfree e
  have hfits : ∀ {k}, t.Fits k → (t.insert l e).Fits k :=
    fun hk => ⟨hk.isName, fun hout => hkept _ (hk.around hout)⟩
  refine ⟨Keyed.nodup_put h.nodup l e, h.isName_base, ?_, ?_⟩
  · refine List.forall_mem_cons.mpr ⟨isAbove_of_get? hfree, fun f hf => ?_⟩
    exact h.apart f (List.mem_of_mem_filter hf)
  · refine List.forall_mem_cons.mpr ⟨hfits hl, fun f hf => ?_⟩
    exact hfits (h.fits f (List.mem_of_mem_filter hf))

/-- A folder that is made leaves a file system. -/
theorem makeFolder (h : t.IsFileSystem) (hmade : t.makeFolder p = .ok u) : u.IsFileSystem := by
  obtain ⟨l, hloc, hentry, rfl⟩ := eq_insert_of_makeFolder hmade
  have hfree : t.get? l ≠ some .folder := by
    rw [hentry]
    exact nofun
  exact h.insert (h.fits_of_locate (fun s => Path.isName_of_mem_way) hloc) hfree _

/-- A file that is put leaves a file system. -/
theorem put (h : t.IsFileSystem) (hput : t.put p bytes = .ok (u, l)) : u.IsFileSystem := by
  obtain ⟨hloc, hfree, rfl⟩ := eq_insert_of_put hput
  refine h.insert (h.fits_of_locate (fun s hs => ?_) hloc) hfree _
  rcases List.mem_append.mp hs with hway | hdot
  · exact Path.isName_of_mem_way hway
  · split at hdot
    · exact absurd (List.mem_singleton.mp hdot) nofun
    · exact absurd hdot List.not_mem_nil

/-- Making folders leaves a file system. -/
theorem makeFolders (h : t.IsFileSystem) (ps : List Path) : (t.makeFolders ps).1.IsFileSystem :=
  makeFolders_rel (R := fun t u => t.IsFileSystem → u.IsFileSystem) (fun _ => id)
    (fun _ _ _ h h' => h' ∘ h) (fun _ _ _ _ hmade h => h.makeFolder hmade) t h

/-- **Saving a text leaves a file system**, also when it fails. -/
theorem save (h : t.IsFileSystem) (p : Path) (s : String) : (t.save p s).1.IsFileSystem := by
  have hprepared : (t.prepare p).1.IsFileSystem := by
    rw [prepare_eq]
    exact h.makeFolders p.folders
  rcases t.save_cases p s with hsame | ⟨l, hput⟩
  · rw [hsame]
    exact hprepared
  · exact hprepared.put hput

/-! ## 4. Names lead to what is listed -/

/-- Around what stands below a location, in the folder, is the folder. -/
theorem get?_below_concat (h : t.IsFileSystem) (hl : t.get? (l.below (way ++ [name])) = some e) :
    t.get? (l.below way) = some .folder := by
  rw [← Location.enter_below] at hl
  have hup := h.get?_up hl
  rwa [Location.up_enter] at hup

/-- **From everything that stands below a location there are folders up to it.** -/
theorem folder_around (h : t.IsFileSystem) (hl : t.get? (l.below way) = some e)
    (haround : IsAround around way) : t.get? (l.below around) = some .folder := by
  induction way using List.reverseRecOn generalizing e with
  | nil => exact absurd haround isAround_nil_iff
  | append_singleton way name ih =>
    have hfolder := h.get?_below_concat hl
    have hpre := isAround_concat_iff.mp haround
    by_cases hsame : around = way
    · rw [hsame]
      exact hfolder
    · exact ih hfolder ⟨hpre, hsame⟩

/-- **The names of what stands below a location lead there**, if no link stands in its place. -/
theorem follow_names (h : t.IsFileSystem) (hsuits : host.Suits t)
    (hl : t.get? (l.below way) = some e) :
    t.follow l (way.map .name) host = .ok (l.below way) := by
  induction way using List.reverseRecOn generalizing e with
  | nil => exact congrArg _ l.below_nil.symm
  | append_singleton way name ih =>
    have hfolder := h.get?_below_concat hl
    have hname : IsShortName name := (h.fits_of_get? hl).isName name (by simp [Location.below])
    have hshort : ∀ n, Part.name name = .name n → n.utf8ByteSize ≤ longestName := by
      rintro n ⟨⟩
      exact hname.2
    have hreal : host.step (l.below way) (.name name) = l.below (way ++ [name]) := by
      rw [← Location.enter_below] at hl ⊢
      exact hsuits _ e hl
    rw [List.map_append, follow_append_eq_bind, ih hfolder]
    exact follow_cons_eq_ok_iff.mpr ⟨hfolder, hshort, congrArg _ hreal⟩

end IsFileSystem

end Tree

end Files

end Carryover
