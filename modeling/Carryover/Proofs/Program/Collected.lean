/-
# The spec files that a run collects

The spec files of a run are those that were named, and those found in a folder, each file at its first
place (`firstPaths`).  Paths are of one file if they lead to the same place, and something stands
there, or if they lead to nothing and are the same.  And a path that leads to nothing is also of the
file whose place it spells part by part, such as `/w/a.json/` of the file `/w/a.json` (`SameFile`).

`Collected` says what a run has collected: every file that was named or found, none of them twice, in
the order in which they were named and then in the order of their paths.  `specFiles_collected` says
that a run collects this, in whatever order the folder lists its files, if the folder can be searched
to the end; otherwise it collects nothing.

That a folder is there does not mean that it can be searched to the end, and that a spec file is in it
does not mean that one of the paths collected leads to it (`exists_spec_file_uncollected`).
-/
import Carryover.Program.Collect
import Carryover.Proofs.Files.Search
import Carryover.Proofs.Model.Earlier

namespace Carryover.Program

open Files

variable {base : List String} {o : Options} {t u : Tree base} {host : Host base} {p q : Path}
  {ps found before : List Path} {k l : Location base} {seen : List Identity} {n : Nat}

/-! ## 1. Paths of one file -/

/-- The path is, part by part, the one that leads from the outermost folder to a location. -/
def Spells (p : Path) (l : Location base) : Prop :=
  p.isRooted = true ∧ p.parts = l.names.map .name

/-- **Two paths are of one file.** -/
inductive SameFile (t : Tree base) (host : Host base) (p q : Path) : Prop where
  /-- Something stands where both lead. -/
  | there {l : Location base} (left : t.Leads p l host) (right : t.Leads q l host)
  /-- Both lead to nothing, and are the same path. -/
  | nowhere (left : ∀ l, ¬ t.Leads p l host) (right : ∀ l, ¬ t.Leads q l host)
      (isRooted_eq : p.isRooted = q.isRooted) (parts_eq : p.parts = q.parts)
  /-- The second one leads to nothing, but spells where the first one leads. -/
  | spelled {l : Location base} (left : t.Leads p l host) (right : ∀ l, ¬ t.Leads q l host)
      (spells : Spells q l)
  /-- The first one leads to nothing, but spells where the second one leads. -/
  | spelling {l : Location base} (left : ∀ l, ¬ t.Leads p l host) (right : t.Leads q l host)
      (spells : Spells p l)

theorem identity_of_leads (h : t.Leads p l host) : identity t p host = .ofLocation l := by
  obtain ⟨hres, ⟨e, hl⟩, hlook⟩ := h
  unfold identity
  rw [hres, hlook]
  simp [hl]

theorem identity_of_nowhere (h : ∀ l, ¬ t.Leads p l host) : identity t p host = .ofPath p := by
  unfold identity
  split
  · next l hres hlook =>
    have hnone : (t.get? l).isSome = false := by
      rw [← Bool.not_eq_true, Option.isSome_iff_exists]
      exact fun hentry => h l ⟨hres, hentry, hlook⟩
    simp [hnone]
  · rfl

/-- A path leads to something or to nothing. -/
theorem leads_or_nowhere (t : Tree base) (host : Host base) (p : Path) :
    (∃ l, t.Leads p l host) ∨ ∀ l, ¬ t.Leads p l host := by
  by_cases h : ∃ l, t.Leads p l host
  · exact .inl h
  · exact .inr (not_exists.mp h)

theorem ofLocation_inj : Identity.ofLocation l = .ofLocation k ↔ l = k := by
  have hinj : Function.Injective Part.name := fun _ _ => Part.name.inj
  obtain ⟨names⟩ := l
  obtain ⟨names'⟩ := k
  simp [Identity.ofLocation, hinj.list_map.eq_iff]

theorem ofLocation_eq_ofPath_iff : Identity.ofLocation l = .ofPath p ↔ Spells p l := by
  unfold Identity.ofLocation Identity.ofPath Spells
  rw [Identity.mk.injEq, eq_comm, eq_comm (b := p.parts)]

/-- **Identities tell the files of paths apart.** -/
theorem sameFile_iff : SameFile t host p q ↔ identity t p host = identity t q host := by
  constructor
  · rintro (⟨left, right⟩ | ⟨left, right, hrooted, hparts⟩ | ⟨left, right, spells⟩ |
      ⟨left, right, spells⟩)
    · rw [identity_of_leads left, identity_of_leads right]
    · rw [identity_of_nowhere left, identity_of_nowhere right]
      simp [Identity.ofPath, hrooted, hparts]
    · rw [identity_of_leads left, identity_of_nowhere right]
      exact ofLocation_eq_ofPath_iff.mpr spells
    · rw [identity_of_nowhere left, identity_of_leads right]
      exact (ofLocation_eq_ofPath_iff.mpr spells).symm
  · intro h
    rcases leads_or_nowhere t host p with ⟨l, hp⟩ | hp <;>
      rcases leads_or_nowhere t host q with ⟨k, hq⟩ | hq
    · rw [identity_of_leads hp, identity_of_leads hq] at h
      obtain rfl := ofLocation_inj.mp h
      exact .there hp hq
    · rw [identity_of_leads hp, identity_of_nowhere hq] at h
      exact .spelled hp hq (ofLocation_eq_ofPath_iff.mp h)
    · rw [identity_of_nowhere hp, identity_of_leads hq] at h
      exact .spelling hp hq (ofLocation_eq_ofPath_iff.mp h.symm)
    · rw [identity_of_nowhere hp, identity_of_nowhere hq] at h
      obtain ⟨hrooted, hparts⟩ := Identity.mk.inj h
      exact .nowhere hp hq hrooted hparts

instance (t : Tree base) (host : Host base) (p q : Path) : Decidable (SameFile t host p q) :=
  decidable_of_iff (identity t p host = identity t q host) sameFile_iff.symm

theorem SameFile.refl (t : Tree base) (host : Host base) (p : Path) : SameFile t host p p :=
  sameFile_iff.mpr rfl

theorem SameFile.trans {r : Path} (h : SameFile t host p q) (h' : SameFile t host q r) :
    SameFile t host p r :=
  sameFile_iff.mpr ((sameFile_iff.mp h).trans (sameFile_iff.mp h'))

/-- Where one of them leads the other one does, or it leads to nothing and spells the way there. -/
theorem SameFile.leads_or_spells (h : SameFile t host p q) (hq : t.Leads q l host) :
    t.Leads p l host ∨ (∀ k, ¬ t.Leads p k host) ∧ Spells p l := by
  have hunique : ∀ k, t.Leads q k host → k = l := fun k hk => Except.ok.inj (hk.1.symm.trans hq.1)
  cases h with
  | @there k left right => exact .inl (hunique k right ▸ left)
  | nowhere left right => exact absurd hq (right l)
  | spelled left right => exact absurd hq (right l)
  | @spelling k left right spells => exact .inr ⟨left, hunique k right ▸ spells⟩

/-! ## 2. The first path of each file -/

/-- The paths before which there is no path of the same file. -/
def firstPaths (t : Tree base) (host : Host base) (ps : List Path) : List Path :=
  ((withEarlier ps).filter fun e => ∀ q ∈ e.1, ¬ SameFile t host q e.2).map Prod.snd

/-- **Each file at its first place**, if some were seen before. -/
theorem firstOfEach_eq (hseen : ∀ i, i ∈ seen ↔ ∃ q ∈ before, identity t q host = i)
    (ps : List Path) : firstOfEach t seen ps host =
      ((withEarlierFrom before ps).filter fun e =>
        ∀ q ∈ e.1, ¬ SameFile t host q e.2).map Prod.snd := by
  induction ps generalizing seen before with
  | nil => rfl
  | cons p ps ih =>
    have hmem : identity t p host ∈ seen ↔ ¬ ∀ q ∈ before, ¬ SameFile t host q p := by
      rw [hseen]
      simp only [sameFile_iff, not_forall, not_not, exists_prop]
    have hmore : ∀ i, (∃ q ∈ before ++ [p], identity t q host = i) ↔
        i ∈ seen ∨ identity t p host = i := by
      intro i
      rw [hseen]
      simp only [List.mem_append, List.mem_singleton, or_and_right, exists_or, exists_eq_left]
    unfold firstOfEach withEarlierFrom
    rw [List.filter_cons]
    by_cases hp : identity t p host ∈ seen
    · have hnext : ∀ i, i ∈ seen ↔ ∃ q ∈ before ++ [p], identity t q host = i := by
        intro i
        rw [hmore, or_iff_left_of_imp (fun heq => heq ▸ hp)]
      simp [hp, hmem.mp hp, ih hnext]
    · have hnext : ∀ i, i ∈ identity t p host :: seen ↔
          ∃ q ∈ before ++ [p], identity t q host = i := by
        intro i
        rw [hmore, List.mem_cons, or_comm, eq_comm]
      have hfirst : ∀ q ∈ before, ¬ SameFile t host q p := not_not.mp (mt hmem.mpr hp)
      rw [if_pos (decide_eq_true hfirst)]
      simp [hp, ih hnext]

/-- One path more is left out if there is one of its file. -/
theorem firstPaths_concat (t : Tree base) (host : Host base) (ps : List Path) (p : Path) :
    firstPaths t host (ps ++ [p]) =
      firstPaths t host ps ++ if ∃ q ∈ ps, SameFile t host q p then [] else [p] := by
  unfold firstPaths
  rw [withEarlier_concat, List.filter_append, List.map_append, List.filter_singleton]
  by_cases h : ∃ q ∈ ps, SameFile t host q p
  · have hnot : ¬ ∀ q ∈ ps, ¬ SameFile t host q p := by simpa using h
    rw [if_pos h, decide_eq_false hnot]
    rfl
  · have hfirst : ∀ q ∈ ps, ¬ SameFile t host q p := by simpa using h
    rw [if_neg h, decide_eq_true hfirst]
    rfl

/-- The first paths are in the order of all. -/
theorem firstPaths_sublist (t : Tree base) (host : Host base) (ps : List Path) :
    (firstPaths t host ps).Sublist ps := by
  conv => rhs; rw [← map_snd_withEarlier ps]
  exact List.filter_sublist.map Prod.snd

/-- **No two of them are of one file.** -/
theorem pairwise_firstPaths (t : Tree base) (host : Host base) (ps : List Path) :
    (firstPaths t host ps).Pairwise fun p q => ¬ SameFile t host p q := by
  induction ps using List.reverseRecOn with
  | nil => exact .nil
  | append_singleton ps p ih =>
    rw [firstPaths_concat]
    split
    · rwa [List.append_nil]
    · next hfirst =>
      refine List.pairwise_append.mpr ⟨ih, List.pairwise_singleton _ _, fun q hq r hr => ?_⟩
      obtain rfl := List.mem_singleton.mp hr
      exact fun hsame => hfirst ⟨q, (firstPaths_sublist t host ps).mem hq, hsame⟩

/-- **Every path is of the same file as one of them.** -/
theorem exists_firstPath (h : p ∈ ps) : ∃ q ∈ firstPaths t host ps, SameFile t host q p := by
  induction ps using List.reverseRecOn generalizing p with
  | nil => exact absurd h List.not_mem_nil
  | append_singleton ps last ih =>
    have hkept : ∀ q ∈ firstPaths t host ps, q ∈ firstPaths t host (ps ++ [last]) := by
      intro q hq
      rw [firstPaths_concat]
      exact List.mem_append_left _ hq
    rcases List.mem_append.mp h with hmem | hlast
    · obtain ⟨q, hq, hsame⟩ := ih hmem
      exact ⟨q, hkept q hq, hsame⟩
    · obtain rfl := List.mem_singleton.mp hlast
      by_cases hearlier : ∃ q ∈ ps, SameFile t host q p
      · obtain ⟨r, hr, hsame⟩ := hearlier
        obtain ⟨q, hq, hsame'⟩ := ih hr
        exact ⟨q, hkept q hq, hsame'.trans hsame⟩
      · refine ⟨p, ?_, .refl t host p⟩
        rw [firstPaths_concat, if_neg hearlier]
        exact List.mem_concat_self

/-- Where the same stands everywhere, the same paths are the first ones. -/
theorem firstPaths_of_same (hsame : ∀ l, u.get? l = t.get? l) (ps : List Path) :
    firstPaths u host ps = firstPaths t host ps := by
  have hidentity : ∀ p, identity u p host = identity t p host := fun p => by
    unfold identity
    simp only [Tree.resolve_of_same hsame, hsame]
  unfold firstPaths
  simp only [sameFile_iff, hidentity]

/-! ## 3. Collecting -/

/-- The spec files in the folder of a run, if there is one, in the order of their paths. -/
structure Found (o : Options) (t : Tree base) (host : Host base) (found : List Path) : Prop where
  sorted : found.Pairwise Path.Before
  mem_iff : ∀ p, p ∈ found ↔ ∃ d way l bytes, o.folder? = some d ∧
    t.Reaches d way l (.file bytes) host ∧ p = d.along way ∧ isSpecFile p = true

/-- **What a run collects.** -/
structure Collected (o : Options) (t : Tree base) (host : Host base) (ps : List Path) : Prop where
  /-- The files that were named and then those that are found, each file at its first place. -/
  firsts : ∃ found, Found o t host found ∧ ps = firstPaths t host (o.specs ++ found) ∧
    ps.Sublist (o.specs ++ found)
  /-- No two are of one file. -/
  apart : ps.Pairwise fun p q => ¬ SameFile t host p q
  /-- Every path that was named is of the same file as one of them. -/
  named : ∀ p ∈ o.specs, ∃ q ∈ ps, SameFile t host q p
  /-- So is the path to every spec file in the folder. -/
  found : ∀ d way l bytes, o.folder? = some d → t.Reaches d way l (.file bytes) host →
    isSpecFile (d.along way) = true → ∃ q ∈ ps, SameFile t host q (d.along way)
  /-- If the spec file can be seen, the one leads to it, or to nothing and spells the way there. -/
  leads : ∀ d way l bytes, o.folder? = some d → t.Reaches d way l (.file bytes) host →
    isSpecFile (d.along way) = true → host.trouble? .look (d.along way) = none →
      ∃ q ∈ ps, t.Leads q l host ∨ (∀ k, ¬ t.Leads q k host) ∧ Spells q l

theorem specFiles_eq_ok_iff : specFiles o t host = .ok ps ↔
    ∃ found, discovered o t host = .ok found ∧ ps = firstPaths t host (o.specs ++ found) := by
  have heq : ∀ ps, firstOfEach t [] ps host = firstPaths t host ps := fun ps =>
    firstOfEach_eq (fun i => iff_of_false List.not_mem_nil (by simp)) ps
  unfold specFiles
  cases discovered o t host with
  | error e => simp [Except.map]
  | ok found => simp [Except.map, heq, eq_comm]

/-- When the folder is searched to the end, and what is found. -/
theorem discovered_eq_ok_iff : discovered o t host = .ok found ↔
    (o.folder? = none ∧ found = []) ∨
      ∃ d ps, o.folder? = some d ∧ t.filesBelow d host = .ok ps ∧ found = ps.filter isSpecFile := by
  unfold discovered
  cases o.folder? with
  | none => simp [eq_comm]
  | some d =>
    cases hps : t.filesBelow d host with
    | ok ps => simp [hps, eq_comm]
    | error e => simp [hps]

/-- **What is found are the spec files in the folder.** -/
theorem found_of_discovered (h : t.IsFileSystem) (hfound : discovered o t host = .ok found) :
    Found o t host found := by
  rcases discovered_eq_ok_iff.mp hfound with ⟨hnone, rfl⟩ | ⟨d, ps, hsome, hps, rfl⟩
  · refine ⟨.nil, fun p => iff_of_false List.not_mem_nil ?_⟩
    rintro ⟨d, way, l, bytes, hsome, -⟩
    exact absurd (hnone.symm.trans hsome) nofun
  · have hlisted := h.listed_of_filesBelow hps
    refine ⟨hlisted.sorted.filter _, fun p => ?_⟩
    rw [List.mem_filter, hlisted.mem_iff]
    constructor
    · rintro ⟨⟨way, l, bytes, hreaches, hp⟩, hspec⟩
      exact ⟨d, way, l, bytes, hsome, hreaches, hp, hspec⟩
    · rintro ⟨d', way, l, bytes, hsome', hreaches, hp, hspec⟩
      obtain rfl := Option.some.inj (hsome.symm.trans hsome')
      exact ⟨⟨way, l, bytes, hreaches, hp⟩, hspec⟩

/-- One of the first paths is of the file of a spec file in the folder. -/
theorem Found.exists_firstPath {d : Path} {way : List String} {bytes : List UInt8}
    (h : Found o t host found) (hsome : o.folder? = some d)
    (hreaches : t.Reaches d way l (.file bytes) host) (hspec : isSpecFile (d.along way) = true) :
    ∃ q ∈ firstPaths t host (o.specs ++ found), SameFile t host q (d.along way) := by
  have hmem : d.along way ∈ found :=
    (h.mem_iff _).mpr ⟨d, way, l, bytes, hsome, hreaches, rfl, hspec⟩
  exact Program.exists_firstPath (List.mem_append_right o.specs hmem)

/-- The first paths of what was named and found are what a run collects. -/
theorem collected_firstPaths (h : t.IsFileSystem) (hsuits : host.Suits t)
    (hfound : Found o t host found) : Collected o t host (firstPaths t host (o.specs ++ found)) where
  firsts := ⟨found, hfound, rfl, firstPaths_sublist t host _⟩
  apart := pairwise_firstPaths t host _
  named p hp := exists_firstPath (List.mem_append_left _ hp)
  found d way l bytes := hfound.exists_firstPath
  leads d way l bytes hsome hreaches hspec hlook := by
    obtain ⟨q, hq, hsame⟩ := hfound.exists_firstPath hsome hreaches hspec
    exact ⟨q, hq, hsame.leads_or_spells (h.leads_of_reaches hsuits hreaches hlook)⟩

/-- **Something is collected if the folder can be searched to the end.** -/
theorem exists_specFiles_iff (h : t.IsFileSystem) :
    (∃ ps, specFiles o t host = .ok ps) ↔ ∀ d, o.folder? = some d → t.Searchable d host := by
  have hdiscovered : (∃ ps, specFiles o t host = .ok ps) ↔
      ∃ found, discovered o t host = .ok found := by
    simp only [specFiles_eq_ok_iff]
    constructor
    · rintro ⟨_, found, hfound, -⟩
      exact ⟨found, hfound⟩
    · rintro ⟨found, hfound⟩
      exact ⟨_, found, hfound, rfl⟩
  rw [hdiscovered]
  simp only [discovered_eq_ok_iff]
  cases o.folder? with
  | none => simp
  | some d => simp [← h.exists_filesBelow_iff]

/-- **In whatever order a tree lists what stands in it, the same is collected.** -/
theorem specFiles_of_perm (h : t.IsFileSystem) (hperm : u.entries.Perm t.entries)
    (hps : specFiles o t host = .ok ps) : specFiles o u host = .ok ps := by
  obtain ⟨found, hfound, rfl⟩ := specFiles_eq_ok_iff.mp hps
  refine specFiles_eq_ok_iff.mpr ⟨found, discovered_eq_ok_iff.mpr ?_, ?_⟩
  · rcases discovered_eq_ok_iff.mp hfound with hnone | ⟨d, ps, hsome, hbelow, hfilter⟩
    · exact .inl hnone
    · exact .inr ⟨d, ps, hsome, h.filesBelow_of_perm hperm hbelow, hfilter⟩
  · exact (firstPaths_of_same (h.get?_of_perm hperm) _).symm

/-- **A run collects the spec files that were named or are found, each once**, on every system whose
links are where nothing else is.  It does so if the folder can be searched to the end, and in whatever
order what stands in it is listed. -/
theorem specFiles_collected (h : t.IsFileSystem) (hsuits : host.Suits t) (o : Options) :
    ((∃ ps, specFiles o t host = .ok ps) ↔ ∀ d, o.folder? = some d → t.Searchable d host) ∧
    (∀ ps, specFiles o t host = .ok ps → Collected o t host ps) ∧
    ∀ u : Tree base, u.entries.Perm t.entries →
      ∀ ps, specFiles o u host = .ok ps ↔ specFiles o t host = .ok ps := by
  refine ⟨exists_specFiles_iff h, fun ps hps => ?_, fun u hperm ps => ⟨fun hps => ?_, ?_⟩⟩
  · obtain ⟨found, hfound, rfl⟩ := specFiles_eq_ok_iff.mp hps
    exact collected_firstPaths h hsuits (found_of_discovered h hfound)
  · exact specFiles_of_perm (h.of_perm hperm) hperm.symm hps
  · exact specFiles_of_perm h hperm

/-- Two spec files and another file, one of them in a folder. -/
def nestedFiles : Tree :=
  (((Tree.empty.save ⟨"notes.txt"⟩ "").1.save ⟨"nested/label.json"⟩ "").1.save ⟨"counter.json"⟩ "").1

/-- A system with a link to one of them. -/
def aliasHost : Host where
  trouble? _ _ := none
  cut? _ := none
  real l := if l = .inside ["alias.json"] then .inside ["counter.json"] else l

theorem aliasHost_suits_nestedFiles : aliasHost.Suits nestedFiles := by
  intro l e hl
  refine if_neg ?_
  rintro rfl
  have hnone : nestedFiles.get? (.inside ["alias.json"]) = none := by decide +kernel
  exact absurd (hnone.symm.trans hl) nofun

/-- One file is named twice, then the link and a file that is missing.  Then the folder is searched. -/
def nestedOptions : Options where
  specs := [⟨"nested/label.json"⟩, ⟨"/tmp/work/nested/../nested/label.json"⟩, ⟨"alias.json"⟩,
    ⟨"missing.json"⟩]
  folder? := some ⟨"."⟩
  out? := none
  isCheck := true
  verbosity := 0

theorem filesBelow_nestedFiles : nestedFiles.filesBelow ⟨"."⟩ aliasHost =
    .ok [⟨"./counter.json"⟩, ⟨"./nested/label.json"⟩, ⟨"./notes.txt"⟩] := by
  have hfind : nestedFiles.find ⟨"."⟩ .look aliasHost = .ok (.work, .folder) := by decide +kernel
  have hfolders : nestedFiles.waysBelow (· = .folder) .work = [[], ["nested"]] :=
    Tree.waysBelow_of_sorted (by decide +kernel) (by decide +kernel)
  have hfiles : nestedFiles.waysBelow (· ≠ .folder) .work =
      [["counter.json"], ["nested", "label.json"], ["notes.txt"]] :=
    Tree.waysBelow_of_sorted (by decide +kernel) (by decide +kernel)
  refine (Tree.filesBelow_of_folder hfind).mpr ⟨?_, ?_⟩
  · unfold Tree.pathsBelow
    rw [hfolders]
    decide +kernel
  · unfold Tree.pathsBelow
    rw [hfiles]
    decide +kernel

/-- Each file is collected once. -/
theorem collected_nestedFiles :
    nestedFiles.IsFileSystem ∧ aliasHost.Suits nestedFiles ∧
    specFiles nestedOptions nestedFiles aliasHost =
      .ok [⟨"nested/label.json"⟩, ⟨"alias.json"⟩, ⟨"missing.json"⟩] ∧
    Collected nestedOptions nestedFiles aliasHost
      [⟨"nested/label.json"⟩, ⟨"alias.json"⟩, ⟨"missing.json"⟩] := by
  have hfiles : nestedFiles.IsFileSystem :=
    (((Tree.isFileSystem_empty Tree.isShortName_defaultBase).save _ _).save _ _).save _ _
  have hspecs : specFiles nestedOptions nestedFiles aliasHost =
      .ok [⟨"nested/label.json"⟩, ⟨"alias.json"⟩, ⟨"missing.json"⟩] := by
    unfold specFiles discovered nestedOptions
    simp only [filesBelow_nestedFiles]
    decide +kernel
  exact ⟨hfiles, aliasHost_suits_nestedFiles, hspecs,
    (specFiles_collected hfiles aliasHost_suits_nestedFiles nestedOptions).2.1 _ hspecs⟩

/-! ## 4. Spec files that are not collected -/

/-- The path of so many dots and one more, with slashes between them. -/
def dotted (n : Nat) : Path :=
  .spelled (List.replicate (n + 1) ".")

theorem text_dotted_succ (n : Nat) : (dotted (n + 1)).text = (dotted n).text ++ "/." := by
  have hne : List.replicate (n + 1) "." ≠ [] := List.cons_ne_nil _ _
  rw [← String.toList_inj, String.toList_append]
  exact Path.toList_spelled_cons "." hne

theorem size_dotted (n : Nat) : (dotted n).text.utf8ByteSize = 2 * n + 1 := by
  induction n with
  | zero => decide
  | succ n ih =>
    have hdot : "/.".utf8ByteSize = 2 := by decide
    rw [text_dotted_succ, String.utf8ByteSize_append, ih, hdot]
    omega

/-- Its way are dots, and its text begins with one and holds nothing but dots and slashes. -/
theorem way_dotted (n : Nat) : (∀ part ∈ (dotted n).way, part = .here) ∧
    ∃ cs, (dotted n).text.toList = '.' :: cs ∧ ∀ c ∈ cs, c = '.' ∨ c = '/' := by
  induction n with
  | zero => exact ⟨by decide, [], rfl, fun c hc => absurd hc List.not_mem_nil⟩
  | succ n ih =>
    obtain ⟨hway, cs, htext, hcs⟩ := ih
    have hmore : (dotted (n + 1)).text.toList = '.' :: (cs ++ ['/', '.']) := by
      rw [text_dotted_succ, String.toList_append, htext]
      rfl
    have hdot : ∀ part ∈ Path.wayOf ['.'], part = .here := by decide
    refine ⟨?_, _, hmore, List.forall_mem_append.mpr ⟨hcs, by simp⟩⟩
    rw [Path.way_eq, hmore, ← List.cons_append, Path.wayOf_append_cons, ← htext]
    exact List.forall_mem_append.mpr ⟨hway, hdot⟩

/-- **Dots lead to where they start**, if they are not too many. -/
theorem find_dotted (t : Tree base) (hshort : 2 * n + 1 ≤ Tree.longestPath) :
    t.find (dotted n) = .ok (.work, .folder) := by
  obtain ⟨hway, cs, htext, hcs⟩ := way_dotted n
  have hsteps : ∀ part ∈ (dotted n).steps, part = .here := by
    unfold Path.steps
    refine List.forall_mem_append.mpr ⟨hway, ?_⟩
    split <;> simp
  have hnul : '\x00' ∉ (dotted n).text.toList := by
    rw [htext]
    intro hmem
    rcases List.mem_cons.mp hmem with heq | hmem
    · exact absurd heq (by decide)
    · exact absurd (hcs _ hmem) (by decide)
  have hne : (dotted n).text ≠ "" := by
    rw [← String.toList_inj.ne, htext]
    exact List.cons_ne_nil _ _
  have hrooted : (dotted n).isRooted ≠ true := by
    rw [ne_eq, Path.isRooted_iff, htext, List.head?_cons]
    decide
  refine Tree.find_eq_ok_iff.mpr
    ⟨Tree.locate_eq_ok_iff.mpr ⟨?_, hne, ?_⟩, t.get?_of_isAbove Location.isAbove_work⟩
  · refine refusal?_eq_none_iff.mpr ⟨?_, hnul⟩
    rwa [size_dotted]
  · unfold Tree.start
    rw [if_neg hrooted]
    exact Tree.follow_dots hsteps (t.get?_of_isAbove Location.isAbove_work)

theorem isFolder_dotted (t : Tree base) (hshort : 2 * n + 1 ≤ Tree.longestPath) :
    t.isFolder (dotted n) = true := by
  unfold Tree.isFolder
  rw [find_dotted t hshort]

/-- A name makes a path longer by its own length at least. -/
theorem size_join (p : Path) (name : String) :
    p.text.utf8ByteSize + name.utf8ByteSize ≤ (p.join name).text.utf8ByteSize := by
  unfold Path.join
  split
  · next hempty => simp [hempty]
  · split <;> simp [String.utf8ByteSize_append]

/-- A spec file, and a folder with a longer name. -/
def wideFolder : Tree :=
  ((Tree.empty.save ⟨"a.json"⟩ "").1.makeFolders [⟨"subfolder"⟩]).1

theorem isFileSystem_wideFolder : wideFolder.IsFileSystem :=
  ((Tree.isFileSystem_empty Tree.isShortName_defaultBase).save _ _).makeFolders _

/-- The folder to search is called by so many dots and one more. -/
def dottedOptions (n : Nat) : Options where
  specs := []
  folder? := some (dotted n)
  out? := none
  isCheck := true
  verbosity := 0

theorem not_collected_dotted (hshort : 2 * n + 1 ≤ Tree.longestPath)
    (hlong : Tree.longestPath < 2 * n + 10) :
    ¬ ∃ ps, specFiles (dottedOptions n) wideFolder = .ok ps := by
  intro hps
  have hfind := find_dotted wideFolder hshort
  have hreaches : wideFolder.Reaches (dotted n) ["subfolder"] (.inside ["subfolder"]) .folder
      .plain :=
    (Tree.reaches_iff_of_folder hfind).mpr ⟨rfl, by decide +kernel⟩
  have hsearchable := (exists_specFiles_iff isFileSystem_wideFolder).mp hps (dotted n) rfl
  have hfree := (Option.or_eq_none_iff.mp (hsearchable.listed _ _ hreaches)).1
  have htaken := (refusal?_eq_none_iff.mp hfree).1
  have hsize : (dotted n).text.utf8ByteSize + 9 ≤
      ((dotted n).along ["subfolder"]).text.utf8ByteSize := size_join (dotted n) "subfolder"
  rw [size_dotted] at hsize
  omega

/-- A system that refuses to list the names in one folder. -/
def deniedHost : Host where
  trouble? call p := if call = .list ∧ p = ⟨"./subfolder"⟩ then some .denied else none
  cut? _ := none
  real l := l

theorem not_collected_denied :
    ¬ ∃ ps, specFiles (dottedOptions 0) wideFolder deniedHost = .ok ps := by
  intro hps
  have hfind : wideFolder.find (dotted 0) .look deniedHost = .ok (.work, .folder) := by
    decide +kernel
  have hreaches : wideFolder.Reaches (dotted 0) ["subfolder"] (.inside ["subfolder"]) .folder
      deniedHost := (Tree.reaches_iff_of_folder hfind).mpr ⟨rfl, by decide +kernel⟩
  have hsearchable := (exists_specFiles_iff isFileSystem_wideFolder).mp hps (dotted 0) rfl
  exact absurd (hsearchable.listed _ _ hreaches) (by decide +kernel)

theorem filesBelow_wideFolder : wideFolder.filesBelow (dotted 0) = .ok [⟨"./a.json"⟩] := by
  have hfind : wideFolder.find (dotted 0) = .ok (.work, .folder) := by decide +kernel
  have hfolders : wideFolder.waysBelow (· = .folder) .work = [[], ["subfolder"]] :=
    Tree.waysBelow_of_sorted (by decide +kernel) (by decide +kernel)
  have hfiles : wideFolder.waysBelow (· ≠ .folder) .work = [["a.json"]] :=
    Tree.waysBelow_of_sorted (by decide +kernel) (by decide +kernel)
  unfold Tree.filesBelow Tree.pathsBelow
  rw [hfind]
  simp only [hfolders, hfiles]
  decide +kernel

/-- The folder is searched, and the path to the spec file is named with a slash at its end, where it
leads to nothing. -/
def slashedOptions : Options :=
  { dottedOptions 0 with specs := [⟨"/tmp/work/a.json/"⟩] }

/-- That path counts as the one of the file. -/
theorem specFiles_slashed :
    specFiles slashedOptions wideFolder = .ok [⟨"/tmp/work/a.json/"⟩] := by
  unfold specFiles discovered slashedOptions dottedOptions
  simp only [filesBelow_wideFolder]
  decide +kernel

/-- **Not every spec file is collected.**  The path of a folder may be too long, or the system may
refuse to list the names in it, and then nothing is collected.  And a path that leads to nothing may
count as that of a spec file in the folder, to which none of the paths leads then. -/
theorem exists_spec_file_uncollected :
    (¬ ∀ (o : Options) (t : Tree), t.IsFileSystem →
      (∀ d, o.folder? = some d → t.isFolder d = true) → ∃ ps, specFiles o t = .ok ps) ∧
    (¬ ∀ (o : Options) (t : Tree) (host : Host), t.IsFileSystem → host.Suits t →
      (∃ ps, specFiles o t = .ok ps) → ∃ ps, specFiles o t host = .ok ps) ∧
    ¬ ∀ (o : Options) (t : Tree) (ps : List Path), t.IsFileSystem → specFiles o t = .ok ps →
      ∀ d way l bytes, o.folder? = some d → t.Reaches d way l (.file bytes) .plain →
        isSpecFile (d.along way) = true → ∃ q ∈ ps, t.Leads q l .plain := by
  refine ⟨fun h => ?_, fun h => ?_, fun h => ?_⟩
  · refine not_collected_dotted (n := 2043) (by decide) (by decide) ?_
    exact h _ _ isFileSystem_wideFolder fun d hd =>
      Option.some.inj hd ▸ isFolder_dotted wideFolder (by decide)
  · refine not_collected_denied
      (h _ _ _ isFileSystem_wideFolder (fun _ _ _ => rfl) ⟨[⟨"./a.json"⟩], ?_⟩)
    unfold specFiles discovered dottedOptions
    simp only [filesBelow_wideFolder]
    decide +kernel
  · have hfind : wideFolder.find (dotted 0) = .ok (.work, .folder) := by decide +kernel
    have hentry : wideFolder.get? (.inside ["a.json"]) = some (.file []) := by decide +kernel
    obtain ⟨q, hq, hres, -⟩ := h _ _ _ isFileSystem_wideFolder specFiles_slashed (dotted 0) ["a.json"]
      (.inside ["a.json"]) [] rfl ((Tree.reaches_iff_of_folder hfind).mpr ⟨rfl, hentry⟩)
      (by decide +kernel)
    obtain rfl := List.mem_singleton.mp hq
    exact absurd hres (by decide +kernel)

end Carryover.Program
