/-
# What saving a text comes to

Saving a text may make folders, and then it writes one file or none.

* Once it has succeeded, the file that the path leads to holds the text, and elsewhere nothing has
  changed but for new folders (`Tree.Saved`).  The file was written unless it held the text before
  and could be read.
* Once it has failed, nothing has changed but for new folders, unless the write broke off: then the
  file holds the beginning of the text (`Tree.unsaved_cases`).

New folders stand where the folders around the path are, and where nothing stood (`Tree.KeepsAt`).
So no file comes or goes with them.

Saving the text again comes to the same and changes nothing, as long as the system lets the folders
be seen and the file be read (`Tree.save_again_of_host`).  A plain system does, and on a plain system
no write breaks off, so there a text that was not saved is not saved again either
(`Tree.unsaved_again`).
-/
import Mathlib.Data.List.Chain
import Carryover.Proofs.Files.Folders

namespace Carryover.Files

variable {base : List String} {t u v : Tree base} {p : Path} {ps : List Path}
  {k l : Location base} {s : String} {e : SaveError} {w : Option (Location base)}
  {bytes : List UInt8} {host host' : Host base}

namespace Tree

/-! ## 1. New folders -/

/-- At this location the second tree is the first one, or it has a new folder there, which one of the
paths leads to. -/
def KeepsAt (ps : List Path) (t u : Tree base) (l : Location base) (host : Host base) : Prop :=
  u.get? l = t.get? l ∨
    (t.get? l = none ∧ u.get? l = some .folder ∧ ∃ p ∈ ps, u.locate p p.way host = .ok l)

/-- **No file comes or goes.** -/
theorem KeepsAt.file_iff (h : KeepsAt ps t u l host) :
    u.get? l = some (.file bytes) ↔ t.get? l = some (.file bytes) := by
  rcases h with hsame | ⟨hnone, hfolder, -⟩
  · rw [hsame]
  · simp [hnone, hfolder]

/-- The second tree is the first one with more folders, which these paths lead to. -/
def AddsFolders (ps : List Path) (t u : Tree base) (host : Host base) : Prop :=
  ∀ l, KeepsAt ps t u l host

namespace AddsFolders

theorem refl (ps : List Path) (t : Tree base) (host : Host base) : AddsFolders ps t t host :=
  fun _ => .inl rfl

theorem keepsFolders (h : AddsFolders ps t u host) : t.KeepsFolders u := by
  intro l hl
  rcases h l with hsame | ⟨-, hfolder, -⟩
  · exact hsame.trans hl
  · exact hfolder

/-- What stays at a location while folders are kept. -/
theorem keepsAt (h : AddsFolders ps t u host) (hkept : u.KeepsFolders v)
    (hl : v.get? l = u.get? l) : KeepsAt ps t v l host := by
  rcases h l with hsame | ⟨hnone, hfolder, p, hp, hloc⟩
  · exact .inl (hl.trans hsame)
  · exact .inr ⟨hnone, hl.trans hfolder, p, hp, locate_of_keepsFolders hkept hloc⟩

theorem trans (h : AddsFolders ps t u host) (h' : AddsFolders ps u v host) :
    AddsFolders ps t v host := by
  intro l
  rcases h' l with hsame | ⟨hnone, hfolder, hplace⟩
  · exact h.keepsAt h'.keepsFolders hsame
  · rcases h l with hbefore | ⟨-, hmade, -⟩
    · exact .inr ⟨hbefore.symm.trans hnone, hfolder, hplace⟩
    · exact absurd (hmade.symm.trans hnone) nofun

end AddsFolders

/-- A folder that was made is new, and its path leads there. -/
theorem addsFolders_of_makeFolder (hp : p ∈ ps) (h : t.makeFolder p host = .ok u) :
    AddsFolders ps t u host := by
  obtain ⟨k, hloc, hnone, hfolder, helse⟩ := kept_of_makeFolder h
  intro l
  by_cases hl : l = k
  · subst hl
    exact .inr ⟨hnone, hfolder, p, hp, hloc⟩
  · exact .inl (helse l hl)

/-- **Making folders adds folders**, also when it fails. -/
theorem addsFolders_makeFolders (t : Tree base) (ps : List Path) (host : Host base) :
    AddsFolders ps t (t.makeFolders ps host).1 host :=
  makeFolders_rel (R := (AddsFolders ps · · host)) (.refl ps · host) (fun _ _ _ => .trans)
    (fun _ hp _ _ => addsFolders_of_makeFolder hp) t

/-! ## 2. Saving once -/

/-- Preparing for a file is making the folders around it. -/
theorem prepare_eq (t : Tree base) (p : Path) (host : Host base) :
    t.prepare p host = ((t.makeFolders p.folders host).1,
      (t.makeFolders p.folders host).2.mapError (.folder (p.parent?.getD ⟨""⟩))) := by
  unfold prepare
  cases hparent : p.parent? with
  | some d => rfl
  | none =>
    -- A path with a part has a folder around it, so this one has none.
    have hchain : p.chain = [] := by
      unfold Path.parent? at hparent
      split at hparent
      · assumption
      · exact absurd hparent nofun
      · exact absurd hparent nofun
    unfold Path.folders
    rw [hchain]
    rfl

/-- A file is prepared for once the folders around it are made. -/
theorem prepare_eq_ok_iff :
    t.prepare p host = (u, .ok ()) ↔ t.makeFolders p.folders host = (u, .ok ()) := by
  rw [prepare_eq]
  rcases t.makeFolders p.folders host with ⟨v, e | _⟩ <;> simp [Except.mapError]

/-- Preparing for a file adds folders. -/
theorem addsFolders_of_prepare {made : Except SaveError Unit} (h : t.prepare p host = (u, made)) :
    AddsFolders p.folders t u host := by
  have hadds := addsFolders_makeFolders t p.folders host
  rw [prepare_eq] at h
  rwa [(Prod.mk.inj h).1] at hadds

/-- **What is left of a text that was saved** at this location.  `w` tells where it was written. -/
structure Saved (t u : Tree base) (p : Path) (s : String) (l : Location base)
    (w : Option (Location base)) (host : Host base) : Prop where
  leads : u.locate p p.steps host = .ok l
  entry_eq : u.get? l = some (.file (bytesOf s))
  elsewhere : ∀ k, k ≠ l → KeepsAt p.folders t u k host
  written_eq : w =
    if t.get? l = some (.file (bytesOf s)) ∧ host.trouble? .read p = none then none else some l

/-- The tree with a text is what is left of it, if the folders were there. -/
theorem exists_saved_of_update (hadds : AddsFolders p.folders t u host)
    (h : u.update p s host = (v, .ok w)) : ∃ l, Saved t v p s l w host := by
  rcases update_cases h with ⟨hread, rfl, rfl⟩ | ⟨hread, l, hput, rfl⟩
  · obtain ⟨l, hloc, hheld, hcall⟩ := read_eq_ok_iff_of_host.mp hread
    have hbefore := (hadds l).file_iff.mp hheld
    exact ⟨l, hloc, hheld, fun k _ => hadds k, (if_pos ⟨hbefore, hcall⟩).symm⟩
  · obtain ⟨hloc, hheld, hkept, helse⟩ := kept_of_put hput
    have hbefore : ¬ (t.get? l = some (.file (bytesOf s)) ∧ host.trouble? .read p = none) :=
      fun ⟨hsame, hcall⟩ => hread (read_eq_ok_iff_of_host.mpr
        ⟨l, (eq_insert_of_put hput).1, (hadds l).file_iff.mpr hsame, hcall⟩)
    exact ⟨l, hloc, hheld, fun k hk => hadds.keepsAt hkept (helse k hk), (if_neg hbefore).symm⟩

/-- **A text that was saved.** -/
theorem exists_saved_of_save (h : t.save p s host = (u, .ok w)) : ∃ l, Saved t u p s l w host := by
  obtain ⟨mid, hprepare, hupdate⟩ := save_eq_ok_iff.mp h
  exact exists_saved_of_update (addsFolders_of_prepare hprepare) hupdate

/-- On a plain system it is at the place of its path. -/
theorem saved_of_save (h : t.save p s = (u, .ok w)) : Saved t u p s p.place w .plain := by
  obtain ⟨l, hsaved⟩ := exists_saved_of_save h
  rwa [eq_place_of_locate hsaved.leads] at hsaved

/-- **A text that was not saved leaves new folders at most**, or the write broke off: then the file
holds the beginning of the text, and elsewhere there are new folders at most. -/
theorem unsaved_cases (h : t.save p s host = (u, .error e)) :
    AddsFolders p.folders t u host ∨
      ∃ n cause l, host.cut? p = some (n, cause) ∧ e = .file p cause ∧
        u.locate p p.steps host = .ok l ∧
        u.get? l = some (.file ((bytesOf s).take n)) ∧
        ∀ k, k ≠ l → KeepsAt p.folders t u k host := by
  rcases save_eq_error_iff.mp h with hprepare | ⟨mid, hprepare, hupdate⟩
  · exact .inl (addsFolders_of_prepare hprepare)
  · have hadds := addsFolders_of_prepare hprepare
    rcases update_error_cases hupdate with rfl | ⟨n, cause, l, hcut, he, hput⟩
    · exact .inl hadds
    · obtain ⟨hloc, hheld, hkept, helse⟩ := kept_of_put hput
      exact .inr ⟨n, cause, l, hcut, he, hloc, hheld,
        fun k hk => hadds.keepsAt hkept (helse k hk)⟩

/-- On a plain system no write breaks off. -/
theorem addsFolders_of_unsaved (h : t.save p s = (u, .error e)) :
    AddsFolders p.folders t u .plain := by
  rcases unsaved_cases h with hadds | ⟨n, cause, l, hcut, -⟩
  · exact hadds
  · exact absurd hcut nofun

/-! ## 3. Saving again -/

/-- A text that a path leads to is not written. -/
theorem update_of_read (h : t.read p host = .ok (bytesOf s)) :
    t.update p s host = (t, .ok none) :=
  update_of_holds (holds_iff.mpr h)

/-- What is written keeps the folders. -/
theorem keepsFolders_of_update (h : t.update p s host = (u, .ok w)) : t.KeepsFolders u := by
  rcases update_cases h with ⟨-, rfl, -⟩ | ⟨-, l, hput, -⟩
  · exact .refl u
  · exact (kept_of_put hput).2.2.1

/-- **A text that was saved is saved again**, and nothing is written, if the system lets the folders
be seen and the file be read.  What else it refuses by then does not matter. -/
theorem save_again_of_host (h : t.save p s host = (u, .ok w)) (hreal : host'.real = host.real)
    (hlook : ∀ q ∈ p.folders, host'.trouble? .look q = none)
    (hread : host'.trouble? .read p = none) : u.save p s host' = (u, .ok none) := by
  obtain ⟨l, hsaved⟩ := exists_saved_of_save h
  obtain ⟨mid, hprepare, hupdate⟩ := save_eq_ok_iff.mp h
  have hmade := makeFolders_of_made (prepare_eq_ok_iff.mp hprepare)
    (keepsFolders_of_update hupdate) hreal hlook
  have hloc : u.locate p p.steps host' = .ok l :=
    (locate_of_real_eq hreal p p.steps).trans hsaved.leads
  refine save_eq_ok_iff.mpr ⟨u, prepare_eq_ok_iff.mpr hmade, update_of_read ?_⟩
  exact read_eq_ok_iff_of_host.mpr ⟨l, hloc, hsaved.entry_eq, hread⟩

/-- A plain system does. -/
theorem save_again (h : t.save p s = (u, .ok w)) : u.save p s = (u, .ok none) :=
  save_again_of_host h rfl (fun _ _ => rfl) rfl

/-- **On a plain system a text that was not saved is not saved again**, and nothing changes. -/
theorem unsaved_again (h : t.save p s = (u, .error e)) : ∃ e', u.save p s = (u, .error e') := by
  rcases save_eq_error_iff.mp h with hprepare | ⟨mid, hprepare, hupdate⟩
  · rw [prepare_eq] at hprepare
    rcases hmade : t.makeFolders p.folders with ⟨mid, trouble | _⟩
    · rw [hmade] at hprepare
      obtain rfl := (Prod.mk.inj hprepare).1
      have hnested : Path.IsNested p.folders := List.IsChain.tail p.isChainOf_chain.nested
      obtain ⟨trouble', hagain, -⟩ := makeFolders_again hnested hmade
      refine ⟨.folder (p.parent?.getD ⟨""⟩) trouble', save_eq_error_iff.mpr (.inl ?_)⟩
      rw [prepare_eq, hagain]
      rfl
    · rw [hmade] at hprepare
      exact absurd (Prod.mk.inj hprepare).2 nofun
  · obtain rfl := eq_of_update_error hupdate
    have hagain := makeFolders_of_keepsFolders (prepare_eq_ok_iff.mp hprepare) (.refl u)
    exact ⟨e, save_eq_error_iff.mpr (.inr ⟨u, prepare_eq_ok_iff.mpr hagain, hupdate⟩)⟩

end Tree

end Carryover.Files
