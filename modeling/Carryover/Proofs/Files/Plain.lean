/-
# Plain paths

A plain path is a row of names with slashes between them (`Path.plain`).  It leads to these names in the
working folder, and the folders around it are its shorter beginnings.

A text can be saved under a plain path if there is no file where a folder has to be, and no folder
where the file has to be (`Tree.save_plain_ok_iff`).  The system takes no name and no path of any
length, and no path with a zero character, and these are the only other reasons to refuse one
(`WithinLimits`).
-/
import Mathlib.Data.List.Induction
import Carryover.Proofs.Files.Alike
import Carryover.Proofs.Files.Saved

namespace Carryover.Files

variable {base : List String} {t u v : Tree base} {l start : Location base} {s name : String}
  {names around : List String} {w : Option (Location base)}

/-! ## 1. Rows of names -/

/-- The path that names spell, from the outside in. -/
def Path.plain (names : List String) : Path :=
  ⟨"/".intercalate names⟩

/-- One name or more. -/
structure ArePlain (names : List String) : Prop where
  nonempty : names ≠ []
  isName : ∀ n ∈ names, IsName n

/-- The first names lead to a folder around the place that all names lead to. -/
def IsAround (around names : List String) : Prop :=
  around <+: names ∧ around ≠ names

/-- The names and the path of them are such as the system takes. -/
structure WithinLimits (names : List String) : Prop where
  name_short : ∀ n ∈ names, n.utf8ByteSize ≤ Tree.longestName
  path_short : (Path.plain names).text.utf8ByteSize ≤ Tree.longestPath
  no_nul : '\x00' ∉ (Path.plain names).text.toList

/-- A path is refused for its length or for a zero character. -/
theorem refusal?_eq_none_iff {p : Path} : Tree.refusal? p = none ↔
    p.text.utf8ByteSize ≤ Tree.longestPath ∧ '\x00' ∉ p.text.toList := by
  unfold Tree.refusal?
  by_cases hnul : '\x00' ∈ p.text.toList
  · simp [hnul]
  · by_cases hlong : Tree.longestPath < p.text.utf8ByteSize
    · simp [hnul, hlong, Nat.not_le.mpr hlong]
    · simp [hnul, hlong, Nat.le_of_not_lt hlong]

theorem withinLimits_iff : WithinLimits names ↔
    Tree.refusal? (.plain names) = none ∧ ∀ n ∈ names, n.utf8ByteSize ≤ Tree.longestName := by
  rw [refusal?_eq_none_iff]
  exact ⟨fun h => ⟨⟨h.path_short, h.no_nul⟩, h.name_short⟩, fun h => ⟨h.2, h.1.1, h.1.2⟩⟩

theorem isAround_nil_iff : ¬ IsAround around [] :=
  fun h => h.2 (List.prefix_nil.mp h.1)

/-- The folders around a name in a folder are the folder and those around it. -/
theorem isAround_concat_iff : IsAround around (names ++ [name]) ↔ around <+: names := by
  unfold IsAround
  rw [List.prefix_concat_iff]
  constructor
  · rintro ⟨hself | hpre, hne⟩
    · exact absurd hself hne
    · exact hpre
  · intro hpre
    refine ⟨.inr hpre, ?_⟩
    rintro rfl
    have hlength := hpre.length_le
    rw [List.length_append, List.length_singleton] at hlength
    omega

/-- The folders around a place behind a first name. -/
theorem forall_isAround_cons {P : List String → Prop} :
    (∀ around, IsAround around (name :: names) → P around) ↔
      P [] ∧ ∀ around, IsAround around names → P (name :: around) := by
  constructor
  · intro h
    refine ⟨h [] ⟨List.nil_prefix, (List.cons_ne_nil _ _).symm⟩, fun around haround => ?_⟩
    exact h _ ⟨(List.cons_prefix_cons).mpr ⟨rfl, haround.1⟩,
      fun heq => haround.2 (List.cons.inj heq).2⟩
  · rintro ⟨hnil, hcons⟩ around ⟨hpre, hne⟩
    rcases List.prefix_cons_iff.mp hpre with rfl | ⟨rest, rfl, hrest⟩
    · exact hnil
    · exact hcons rest ⟨hrest, fun heq => hne (congrArg _ heq)⟩

namespace Path

/-! ## 2. The path that names spell -/

/-- A plain path is empty only without names, and does not end in a slash. -/
theorem plain_text (h : ∀ n ∈ names, IsName n) :
    ((plain names).text = "" ↔ names = []) ∧ (plain names).text.endsWith "/" = false := by
  induction names using List.reverseRecOn with
  | nil => exact ⟨iff_of_true rfl rfl, by decide⟩
  | append_singleton names name _ =>
    have hname := h name List.mem_concat_self
    have htext : ∃ cs, (plain (names ++ [name])).text.toList = cs ++ name.toList := by
      unfold plain
      by_cases hnil : names = []
      · exact ⟨[], by simp [hnil]⟩
      · refine ⟨("/".intercalate names ++ "/").toList, ?_⟩
        rw [String.intercalate_append_of_ne_nil hnil (List.cons_ne_nil _ _),
          String.intercalate_singleton, String.toList_append]
    obtain ⟨cs, hcs⟩ := htext
    have hne : name.toList ≠ [] := by simpa using hname.nonempty
    constructor
    · refine iff_of_false (fun hempty => hne ?_) (List.append_ne_nil_of_right_ne_nil _ nofun)
      rw [hempty] at hcs
      exact (List.append_eq_nil_iff.mp hcs.symm).2
    · rw [← Bool.not_eq_true]
      intro hslash
      obtain ⟨ds, hds⟩ := exists_of_endsWith hslash
      have hlast : name.toList.getLast? = some '/' := by
        rw [← List.getLast?_append_of_ne_nil cs hne, ← hcs, hds, List.getLast?_concat]
      exact hname.no_slash '/' (List.mem_of_getLast? hlast) rfl

/-- **One name more is the path one name further.** -/
theorem plain_concat (h : ∀ n ∈ names, IsName n) (name : String) :
    plain (names ++ [name]) = (plain names).join name := by
  obtain ⟨hempty, hslash⟩ := plain_text h
  unfold join
  by_cases hnil : names = []
  · rw [if_pos (hempty.mpr hnil), hnil]
    simp [plain]
  · rw [if_neg (mt hempty.mp hnil), hslash]
    simp [plain, String.intercalate_append_of_ne_nil hnil, String.append_assoc]

/-- The way of a plain path are its names. -/
theorem way_plain (h : ∀ n ∈ names, IsName n) : (plain names).way = names.map .name := by
  induction names using List.reverseRecOn with
  | nil => rfl
  | append_singleton names name ih =>
    obtain ⟨hnames, hname⟩ := List.forall_mem_append.mp h
    rw [plain_concat hnames, way_join _ (hname name List.mem_cons_self), ih hnames, List.map_append]
    rfl

/-- So are its steps, because no slash ends it. -/
theorem steps_plain (h : ∀ n ∈ names, IsName n) : (plain names).steps = names.map .name := by
  unfold steps
  rw [(plain_text h).2, way_plain h]
  exact List.append_nil _

/-- It starts in the working folder. -/
theorem start_plain (h : ∀ n ∈ names, IsName n) :
    Tree.start (plain names) = (.work : Location base) := by
  have hrooted : (plain names).isRooted = false := by
    induction names using List.reverseRecOn with
    | nil => decide
    | append_singleton names name ih =>
      obtain ⟨hnames, hname⟩ := List.forall_mem_append.mp h
      rw [plain_concat hnames, isRooted_join _ (hname name List.mem_cons_self), ih hnames]
  unfold Tree.start
  rw [hrooted]
  rfl

/-- **A plain path leads to its names in the working folder.** -/
theorem place_plain (h : ∀ n ∈ names, IsName n) :
    (plain names).place = (.inside names : Location base) := by
  induction names using List.reverseRecOn with
  | nil => exact (Location.below_nil _).symm
  | append_singleton names name ih =>
    obtain ⟨hnames, hname⟩ := List.forall_mem_append.mp h
    rw [plain_concat hnames, place_join _ (hname name List.mem_cons_self), ih hnames]
    exact Location.enter_below _ _ _

/-- The chain of a plain path are the paths of its beginnings. -/
theorem place_of_mem_chain_plain (h : ∀ n ∈ names, IsName n) {q : Path} (hq : q ∈ (plain names).chain) :
    ∃ around, around <+: names ∧ q.place = (.inside around : Location base) := by
  induction names using List.reverseRecOn with
  | nil => exact absurd hq List.not_mem_nil
  | append_singleton names name ih =>
    obtain ⟨hnames, hname⟩ := List.forall_mem_append.mp h
    rw [plain_concat hnames, chain_join _ (hname name List.mem_cons_self)] at hq
    rcases List.mem_cons.mp hq with rfl | hq
    · refine ⟨names ++ [name], List.prefix_rfl, ?_⟩
      rw [← plain_concat hnames, place_plain h]
    · obtain ⟨around, haround, hplace⟩ := ih hnames hq
      exact ⟨around, haround.trans (List.prefix_append _ _), hplace⟩

end Path

namespace Tree

/-! ## 3. Following names -/

/-- A folder is there, or can be made: there is no file. -/
def CanBeFolder (t : Tree base) (l : Location base) : Prop :=
  ∀ bytes, t.get? l ≠ some (.file bytes)

/-- **Where names lead**: below the start, if all folders around are there. -/
theorem follow_names_eq_ok_iff : t.follow start (names.map .name) = .ok l ↔
    l = start.below names ∧ (∀ n ∈ names, n.utf8ByteSize ≤ longestName) ∧
      ∀ around, IsAround around names → t.get? (start.below around) = some .folder := by
  induction names generalizing start with
  | nil =>
    have hnone : ∀ around, IsAround around [] → t.get? (start.below around) = some .folder :=
      fun _ h => absurd h isAround_nil_iff
    rw [List.map_nil, follow, Except.ok.injEq, Location.below_nil]
    exact ⟨fun heq => ⟨heq.symm, fun _ hn => absurd hn List.not_mem_nil, hnone⟩,
      fun heq => heq.1.symm⟩
  | cons name names ih =>
    rw [List.map_cons, follow_cons_eq_ok_iff, Host.step_plain_name, ih, forall_isAround_cons,
      List.forall_mem_cons]
    simp only [Location.below_enter, Location.below_nil, Part.name.injEq, forall_eq']
    constructor
    · rintro ⟨hstart, hname, hl, hshort, haround⟩
      exact ⟨hl, ⟨hname, hshort⟩, hstart, haround⟩
    · rintro ⟨hl, ⟨hname, hshort⟩, hstart, haround⟩
      exact ⟨hstart, hname, hl, hshort, haround⟩

/-- **If no file is in the way, names lead to their place, or a folder is missing.** -/
theorem follow_names_of_open (start : Location base)
    (hshort : ∀ n ∈ names, n.utf8ByteSize ≤ longestName)
    (hopen : ∀ around, IsAround around names → t.CanBeFolder (start.below around)) :
    t.follow start (names.map .name) = .ok (start.below names) ∨
      t.follow start (names.map .name) = .error .missing := by
  induction names generalizing start with
  | nil => exact .inl (congrArg _ start.below_nil.symm)
  | cons name names ih =>
    obtain ⟨hname, hnames⟩ := List.forall_mem_cons.mp hshort
    obtain ⟨hstart, haround⟩ := forall_isAround_cons.mp hopen
    rw [Location.below_nil] at hstart
    have hrest := ih (start.enter name) hnames fun around h => by
      rw [Location.below_enter]
      exact haround around h
    rw [List.map_cons, follow]
    rcases hentry : t.get? start with _ | _ | bytes
    · exact .inr rfl
    · simpa [Location.below_enter, Nat.not_lt.mpr hname] using hrest
    · exact absurd hentry (hstart bytes)

/-- A plain path is followed from the working folder. -/
theorem locate_plain (h : ArePlain names) (hfree : refusal? (.plain names) = none) :
    t.locate (.plain names) (names.map .name) = t.follow .work (names.map .name) := by
  have hne : (Path.plain names).text ≠ "" := mt (Path.plain_text h.isName).1.mp h.nonempty
  have hstart : Tree.start (.plain names) = (.work : Location base) := Path.start_plain h.isName
  unfold start at hstart
  unfold locate resolve
  rw [hfree]
  simp only [hne, if_false, hstart]

/-! ## 4. Folders of plain paths -/

/-- A folder can be needed where a path leads, if there is no file. -/
theorem exists_needFolder_of_locate {p : Path} (h : t.locate p p.way = .ok l) (hl : t.CanBeFolder l) :
    ∃ u, t.needFolder p = (u, .ok ()) := by
  rcases hentry : t.get? l with _ | _ | bytes
  · refine ⟨t.insert l .folder, ?_⟩
    unfold needFolder
    rw [makeFolder_of_none h hentry]
  · exact ⟨t, needFolder_of_isFolder (isFolder_iff_hasFolder.mpr ⟨l, h, hentry⟩)⟩
  · exact absurd hentry (hl bytes)

/-- What the system takes with a name more it takes without. -/
theorem withinLimits_of_concat (h : ∀ n ∈ names, IsName n) (hname : IsName name)
    (hlimits : WithinLimits (names ++ [name])) : WithinLimits names := by
  obtain ⟨hfree, hshort⟩ := withinLimits_iff.mp hlimits
  refine withinLimits_iff.mpr ⟨?_, fun n hn => hshort n (List.mem_append_left _ hn)⟩
  by_cases hnil : names = []
  · rw [hnil]
    decide
  · have hne : (Path.plain names).text ≠ "" := mt (Path.plain_text h).1.mp hnil
    rw [Path.plain_concat h] at hfree
    exact (Path.begins_join hname hne).refusal?_eq_none hfree

/-- Where the folder of a plain path was made, a name in it leads to its place. -/
theorem follow_names_of_made (h : ∀ n ∈ names, IsName n) (hname : name.utf8ByteSize ≤ longestName)
    (hmade : t.makeFolders (Path.plain names).chain = (u, .ok ())) :
    u.follow .work ((names ++ [name]).map .name) = .ok (.inside (names ++ [name])) := by
  obtain ⟨hfollow, hfolder⟩ := (ready_of_makeFolders hmade).follow_eq
  rw [Path.start_plain h, Path.way_plain h, Path.place_plain h] at hfollow
  rw [Path.place_plain h] at hfolder
  have hshort : ∀ n, Part.name name = .name n → n.utf8ByteSize ≤ longestName := by
    rintro n ⟨⟩
    exact hname
  rw [List.map_append, follow_append_eq_bind, hfollow]
  exact follow_cons_eq_ok_iff.mpr ⟨hfolder, hshort, congrArg _ (Location.enter_below _ _ _)⟩

/-- **The folder of a plain path can be made if there are no files in its way.** -/
theorem exists_makeFolders_plain (h : ∀ n ∈ names, IsName n) (hlimits : WithinLimits names)
    (hopen : ∀ around, around <+: names → t.CanBeFolder (.inside around)) :
    ∃ u, t.makeFolders (Path.plain names).chain = (u, .ok ()) := by
  induction names using List.reverseRecOn with
  | nil => exact ⟨t, rfl⟩
  | append_singleton names name ih =>
    obtain ⟨hnames, hlast⟩ := List.forall_mem_append.mp h
    have hname : IsName name := hlast name List.mem_cons_self
    have hplain : ArePlain (names ++ [name]) := ⟨List.append_ne_nil_of_right_ne_nil _ nofun, h⟩
    obtain ⟨hfree, hshort⟩ := withinLimits_iff.mp hlimits
    have hself : t.CanBeFolder (.inside (names ++ [name])) := hopen _ List.prefix_rfl
    obtain ⟨v, hv⟩ := ih hnames (withinLimits_of_concat hnames hname hlimits) fun around haround =>
      hopen around (haround.trans (List.prefix_append _ _))
    have hchain : (Path.plain (names ++ [name])).chain =
        .plain (names ++ [name]) :: (Path.plain names).chain := by
      rw [Path.plain_concat hnames, Path.chain_join _ hname]
    have hlocate : ∀ t : Tree base,
        t.locate (.plain (names ++ [name])) (Path.plain (names ++ [name])).way =
          t.follow .work ((names ++ [name]).map .name) := by
      intro t
      rw [Path.way_plain h, locate_plain hplain hfree]
    rw [hchain]
    rcases follow_names_of_open .work hshort fun around haround =>
      hopen around haround.1 with hled | hmissing
    · -- All folders around are there.
      obtain ⟨u, hu⟩ := exists_needFolder_of_locate ((hlocate t).trans hled) hself
      exact ⟨u, makeFolders_of_done hu nofun⟩
    · -- One is missing, so they are made first, and then the path leads to its place.
      rw [makeFolders_of_missing (needFolder_of_locate_error ((hlocate t).trans hmissing)), hv]
      have hled := follow_names_of_made hnames (hshort name List.mem_concat_self) hv
      have hadds := addsFolders_makeFolders t (Path.plain names).chain .plain
      rw [hv] at hadds
      exact exists_needFolder_of_locate ((hlocate v).trans hled)
        fun bytes hbytes => hself bytes ((hadds _).file_iff.mp hbytes)

/-! ## 5. Saving under a plain path -/

/-- A file can be written where a path leads, if there is no folder. -/
theorem exists_update_of_locate {p : Path} (h : t.locate p p.steps = .ok l)
    (hl : t.get? l ≠ some .folder) : ∃ u w, t.update p s = (u, .ok w) := by
  cases hheld : t.holds p s with
  | true => exact ⟨t, none, update_of_holds hheld⟩
  | false =>
    rw [update_of_not_holds hheld, put_of_free h hl]
    exact ⟨_, _, rfl⟩

/-- A text that was saved under a plain path is below folders. -/
theorem Saved.folders_of_plain (h : Saved t u (.plain names) s l w .plain)
    (hplain : ArePlain names) : WithinLimits names ∧
      ∀ around, IsAround around names → u.get? (.inside around) = some .folder := by
  have hloc := h.leads
  rw [Path.steps_plain hplain.isName] at hloc
  obtain ⟨hfree, -, hfollow⟩ := locate_eq_ok_iff.mp hloc
  rw [Path.start_plain hplain.isName] at hfollow
  obtain ⟨-, hshort, haround⟩ := follow_names_eq_ok_iff.mp hfollow
  exact ⟨withinLimits_iff.mpr ⟨hfree, hshort⟩, haround⟩

/-- **When a text is saved under a plain path**: the system takes the path, there is no file where a
folder has to be, and no folder where the file has to be. -/
theorem save_plain_ok_iff (hplain : ArePlain names) :
    (∃ u w, t.save (.plain names) s = (u, .ok w)) ↔
      WithinLimits names ∧ (∀ around, IsAround around names → t.CanBeFolder (.inside around)) ∧
        t.get? (.inside names) ≠ some .folder := by
  constructor
  · rintro ⟨u, w, hsave⟩
    have hsaved := saved_of_save hsave
    obtain ⟨hlimits, haround⟩ := hsaved.folders_of_plain hplain
    obtain ⟨-, -, -, hkept, -⟩ := exists_location_of_save hsave
    refine ⟨hlimits, fun around h bytes hfile => ?_, fun hfolder => ?_⟩
    · have hne : (.inside around : Location base) ≠ (Path.plain names).place := by
        rw [Path.place_plain hplain.isName]
        exact fun heq => h.2 (Location.below_inj.mp heq)
      rcases hsaved.elsewhere _ hne with hsame | ⟨hnone, -⟩
      · exact absurd ((haround around h).symm.trans (hsame.trans hfile)) nofun
      · exact absurd (hnone.symm.trans hfile) nofun
    · have hentry := hsaved.entry_eq
      rw [Path.place_plain hplain.isName, hkept _ hfolder] at hentry
      exact absurd hentry nofun
  · rintro ⟨hlimits, hopen, hfree⟩
    obtain ⟨init, name, rfl⟩ : ∃ init name, names = init ++ [name] :=
      ⟨_, _, (List.dropLast_append_getLast hplain.nonempty).symm⟩
    obtain ⟨hinit, hlast⟩ := List.forall_mem_append.mp hplain.isName
    have hname : IsName name := hlast name List.mem_cons_self
    obtain ⟨hunrefused, hshort⟩ := withinLimits_iff.mp hlimits
    obtain ⟨v, hmade⟩ := exists_makeFolders_plain hinit (withinLimits_of_concat hinit hname hlimits)
      fun around haround => hopen around (isAround_concat_iff.mpr haround)
    have hloc : v.locate (.plain (init ++ [name])) (Path.plain (init ++ [name])).steps =
        .ok (.inside (init ++ [name])) := by
      rw [Path.steps_plain hplain.isName, locate_plain hplain hunrefused]
      exact follow_names_of_made hinit (hshort name List.mem_concat_self) hmade
    -- The folders that were made are around the place, so none is at it.
    have hfree' : v.get? (.inside (init ++ [name])) ≠ some .folder := by
      intro hfolder
      have hadds := addsFolders_makeFolders t (Path.plain init).chain .plain
      rw [hmade] at hadds
      rcases hadds (.inside (init ++ [name])) with hsame | ⟨-, -, q, hq, hloc⟩
      · exact hfree (hsame.symm.trans hfolder)
      · obtain ⟨around, haround, hplace⟩ := Path.place_of_mem_chain_plain hinit hq
        have hsame := Location.below_inj.mp ((eq_place_of_locate_way hloc).trans hplace)
        exact (isAround_concat_iff.mpr haround).2 hsame.symm
    obtain ⟨u, w, hupdate⟩ := exists_update_of_locate (s := s) hloc hfree'
    refine ⟨u, w, save_eq_ok_iff.mpr ⟨v, ?_, hupdate⟩⟩
    rw [prepare_eq, Path.plain_concat hinit, Path.folders_join _ hname, hmade]
    rfl

end Tree

end Carryover.Files
