/-
# What is found below a folder

A folder is searched for files at any depth (`Tree.filesBelow`).  In a file system the search comes to
its end if the path leads to something that can be seen, and the names in all folders below can be
listed (`Tree.Searchable`).  Then it finds every file, at its path, once, and in the order of the paths
(`Tree.Listed`).  Links are not followed, but the path itself may lead to the folder through links.

There is one such list only (`Tree.Listed.unique`).  So it does not matter in which order the tree
lists what stands in it.
-/
import Mathlib.Data.List.Lex
import Mathlib.Data.List.Sort
import Mathlib.Data.String.Basic
import Carryover.Proofs.Files.FileSystem

namespace Carryover.Files

variable {base : List String} {t u : Tree base} {k l : Location base} {d p q : Path} {e : Entry}
  {name : String} {way : List String} {ps qs : List Path} {isWanted : Entry → Bool}
  {host : Host base}

/-! ## 1. The order of paths -/

/-- Which of two parts comes first. -/
inductive Part.Before : Part → Part → Prop where
  | here_up : Before .here .up
  | here_name (s : String) : Before .here (.name s)
  | up_name (s : String) : Before .up (.name s)
  | name {s r : String} (h : s < r) : Before (.name s) (.name r)

instance : Std.Asymm Part.Before where
  asymm := by
    rintro _ _ ⟨⟩ h
    case name s r hsr =>
      cases h with
      | name hrs => exact absurd hrs (asymm hsr)
    all_goals exact absurd h nofun

/-- **Which of two paths comes first**, part by part.  Both start from the same folder. -/
structure Path.Before (p q : Path) : Prop where
  isRooted_eq : p.isRooted = q.isRooted
  parts_lt : List.Lex Part.Before p.parts q.parts

instance : Std.Asymm Path.Before where
  asymm _ _ h h' := asymm h.parts_lt h'.parts_lt

/-- Rows of names in order are rows of parts in order. -/
theorem lex_map_name {a b : List String} (h : a < b) :
    List.Lex Part.Before (a.map .name) (b.map .name) := by
  have hlex : List.Lex (· < ·) a b := h
  induction hlex with
  | nil => exact .nil
  | cons hrest ih => exact .cons (ih hrest)
  | rel hlt => exact .rel (.name hlt)

namespace Path

/-! ## 2. Names behind a path -/

/-- The parts of a path are those that its pieces count, but for a dot in front. -/
theorem parts_eq (p : Path) :
    p.parts = (if p.pieces.head? = some "." then [.here] else []) ++ counted p.pieces := by
  unfold parts
  split
  · next rest hpieces => simp [hpieces, counted]
  · next hpieces =>
    have hhead : p.pieces.head? ≠ some "." := fun h => by
      obtain ⟨rest, hrest⟩ := List.head?_eq_some_iff.mp h
      exact hpieces rest hrest
    rw [if_neg hhead, List.nil_append]

theorem counted_append (as bs : List String) : counted (as ++ bs) = counted as ++ counted bs := by
  unfold counted
  rw [List.filter_append, List.map_append]

/-- The pieces of a name in a folder: those of the folder, without nothing behind a last slash, and
the name. -/
theorem exists_pieces_join (p : Path) (h : IsName name) : ∃ pieces rest, p.pieces = pieces ++ rest ∧
    (p.join name).pieces = pieces ++ [name] ∧ (rest = [] ∧ pieces ≠ [] ∨ rest = [""]) := by
  have hpieces : ∀ q : Path, q.pieces = (piecesOf q.text.toList).reverse := by
    intro q
    unfold piecesOf
    rw [List.reverse_reverse]
    rfl
  have hnone : ∀ c ∈ ([] : List Char), c ≠ '/' := fun c hc => absurd hc List.not_mem_nil
  rw [hpieces, hpieces]
  rcases p.toList_join name with ⟨hempty, hjoin⟩ | ⟨cs, hp, hjoin⟩ | ⟨-, hjoin⟩
  · refine ⟨[], [""], ?_, ?_, .inr rfl⟩
    · rw [hempty]
      rfl
    · rw [hjoin, piecesOf_piece h.no_slash, String.ofList_toList]
      rfl
  · refine ⟨(piecesOf cs).reverse, [""], ?_, ?_, .inr rfl⟩
    · rw [hp, piecesOf_append_cons hnone, List.reverse_cons]
    · rw [hjoin, piecesOf_append_cons h.no_slash, String.ofList_toList, List.reverse_cons]
  · refine ⟨(piecesOf p.text.toList).reverse, [], (List.append_nil _).symm, ?_, .inl ⟨rfl, ?_⟩⟩
    · rw [hjoin, piecesOf_append_cons h.no_slash, String.ofList_toList, List.reverse_cons]
    · simpa using piecesOf_ne_nil p.text.toList

/-- **A name further, one part more.** -/
theorem parts_join (p : Path) (h : IsName name) : (p.join name).parts = p.parts ++ [.name name] := by
  obtain ⟨pieces, rest, hp, hjoin, hrest⟩ := p.exists_pieces_join h
  have hname : counted [name] = [.name name] := by
    simp [counted, h.nonempty, h.not_here, h.ofText]
  have hnothing : counted rest = [] := by
    rcases hrest with ⟨rfl, -⟩ | rfl <;> rfl
  have hhead : (p.join name).pieces.head? = some "." ↔ p.pieces.head? = some "." := by
    rw [hp, hjoin]
    cases pieces with
    | cons first pieces => rfl
    | nil =>
      obtain rfl : rest = [""] := by
        rcases hrest with ⟨-, hne⟩ | hrest
        · exact absurd rfl hne
        · exact hrest
      simp [h.not_here]
  rw [parts_eq, parts_eq]
  simp only [hhead]
  rw [hp, hjoin, counted_append, counted_append, hname, hnothing, List.append_nil, List.append_assoc]

/-- The path with names behind it. -/
def along (p : Path) (way : List String) : Path :=
  way.foldl join p

theorem along_concat (p : Path) (way : List String) (name : String) :
    p.along (way ++ [name]) = (p.along way).join name := by
  simp [along]

/-- **Names further, so many steps and parts more**, and still from the same folder. -/
theorem way_along (p : Path) (h : ∀ n ∈ way, IsName n) :
    (p.along way).way = p.way ++ way.map .name ∧ (p.along way).parts = p.parts ++ way.map .name ∧
      (p.along way).isRooted = p.isRooted ∧ (p.text ≠ "" → (p.along way).text ≠ "") := by
  induction way using List.reverseRecOn with
  | nil => exact ⟨(List.append_nil _).symm, (List.append_nil _).symm, rfl, id⟩
  | append_singleton way name ih =>
    obtain ⟨hway, hlast⟩ := List.forall_mem_append.mp h
    have hname : IsName name := hlast name List.mem_cons_self
    obtain ⟨ihway, ihparts, ihrooted, ihtext⟩ := ih hway
    rw [along_concat]
    refine ⟨?_, ?_, (isRooted_join _ hname).trans ihrooted, fun hne => ?_⟩
    · rw [way_join _ hname, ihway, List.map_append, List.append_assoc]
      rfl
    · rw [parts_join _ hname, ihparts, List.map_append, List.append_assoc]
      rfl
    · exact (begins_join hname (ihtext hne)).text_ne

/-- The steps of a path with names behind it are the way of both. -/
theorem steps_along (p : Path) (h : ∀ n ∈ way, IsName n) (hne : way ≠ []) :
    (p.along way).steps = p.way ++ way.map .name := by
  obtain ⟨init, name, rfl⟩ : ∃ init name, way = init ++ [name] :=
    ⟨_, _, (List.dropLast_append_getLast hne).symm⟩
  obtain ⟨hinit, hlast⟩ := List.forall_mem_append.mp h
  have hname : IsName name := hlast name List.mem_cons_self
  rw [along_concat, steps_join _ hname, (p.way_along hinit).1, List.map_append, List.append_assoc]
  rfl

/-- **Names in order behind a path are paths in order.** -/
theorem before_along (p : Path) {a b : List String} (ha : ∀ n ∈ a, IsName n)
    (hb : ∀ n ∈ b, IsName n) (h : a < b) : (p.along a).Before (p.along b) := by
  obtain ⟨-, hparts, hrooted, -⟩ := p.way_along ha
  obtain ⟨-, hparts', hrooted', -⟩ := p.way_along hb
  refine ⟨hrooted.trans hrooted'.symm, ?_⟩
  rw [hparts, hparts']
  exact List.Lex.append_left _ (lex_map_name h) _

end Path

/-! ## 3. Ways below a location -/

theorem Location.below?_eq_some_iff : l.below? k = some way ↔ k = l.below way := by
  obtain ⟨names⟩ := l
  obtain ⟨names'⟩ := k
  simp only [below?, below, List.isPrefixOf_iff_prefix, Option.ite_none_right_eq_some,
    Option.some.injEq, Location.mk.injEq]
  constructor
  · rintro ⟨⟨rest, rfl⟩, rfl⟩
    exact congrArg _ List.drop_left.symm
  · rintro rfl
    exact ⟨List.prefix_append _ _, List.drop_left⟩

namespace Tree

/-- The folders around the working folder, and itself. -/
theorem mem_above_iff : (l, e) ∈ (List.range (base.length + 1)).map (fun n =>
      ((⟨base.take n⟩, .folder) : Location base × Entry)) ↔ l.isAbove = true ∧ e = .folder := by
  obtain ⟨names⟩ := l
  simp only [List.mem_map, List.mem_range, Prod.mk.injEq, Location.mk.injEq, Location.isAbove_iff]
  constructor
  · rintro ⟨n, -, rfl, rfl⟩
    exact ⟨List.take_prefix _ _, rfl⟩
  · rintro ⟨hpre, rfl⟩
    exact ⟨names.length, Nat.lt_succ_of_le hpre.length_le, (List.prefix_iff_eq_take.mp hpre).symm,
      rfl⟩

namespace IsFileSystem

/-- **The list of all that stands somewhere.** -/
theorem mem_listing_iff (h : t.IsFileSystem) : (l, e) ∈ t.listing ↔ t.get? l = some e := by
  unfold listing
  rw [List.mem_append, mem_above_iff]
  cases habove : l.isAbove with
  | true =>
    have hnot : (l, e) ∉ t.entries := fun hmem =>
      absurd (habove.symm.trans (h.apart _ hmem)) nofun
    rw [t.get?_of_isAbove habove]
    simp [hnot, eq_comm]
  | false =>
    rw [h.get?_eq_some_iff habove]
    simp

/-- Every location is listed once. -/
theorem nodup_listing (h : t.IsFileSystem) : (t.listing.map Prod.fst).Nodup := by
  unfold listing
  rw [List.map_append, List.map_map]
  refine List.nodup_append.mpr ⟨?_, h.nodup, ?_⟩
  · refine List.Nodup.map_on (fun m hm n hn heq => ?_) List.nodup_range
    have hlength : (base.take m).length = (base.take n).length :=
      congrArg (fun l : Location base => l.names.length) heq
    rw [List.mem_range] at hm hn
    rw [List.length_take, List.length_take] at hlength
    omega
  · rintro l hl k hk rfl
    obtain ⟨entry, hmem, rfl⟩ := List.mem_map.mp hk
    obtain ⟨n, -, heq⟩ := List.mem_map.mp hl
    have habove : entry.1.isAbove = true := by
      rw [← heq]
      exact Location.isAbove_iff.mpr (List.take_prefix n base)
    exact absurd (habove.symm.trans (h.apart _ hmem)) nofun

theorem mem_waysBelow_iff (h : t.IsFileSystem) : way ∈ t.waysBelow isWanted l ↔
    ∃ e, t.get? (l.below way) = some e ∧ isWanted e = true := by
  unfold waysBelow
  rw [List.mem_mergeSort, List.mem_filterMap]
  constructor
  · rintro ⟨⟨k, e⟩, hmem, hway⟩
    obtain ⟨hwanted, hbelow⟩ := (Option.ite_none_right_eq_some).mp hway
    obtain rfl := Location.below?_eq_some_iff.mp hbelow
    exact ⟨e, h.mem_listing_iff.mp hmem, hwanted⟩
  · rintro ⟨e, hl, hwanted⟩
    refine ⟨(l.below way, e), h.mem_listing_iff.mpr hl, ?_⟩
    exact (if_pos hwanted).trans (Location.below?_eq_some_iff.mpr rfl)

/-- **The ways are in order**, each once. -/
theorem pairwise_waysBelow (h : t.IsFileSystem) (isWanted : Entry → Bool) (l : Location base) :
    (t.waysBelow isWanted l).Pairwise (· < ·) := by
  have hapart : t.listing.Pairwise fun e f => e.1 ≠ f.1 := List.pairwise_map.mp h.nodup_listing
  have hnodup : (t.waysBelow isWanted l).Nodup := by
    unfold waysBelow
    rw [List.nodup_mergeSort]
    refine List.pairwise_filterMap.mpr (hapart.imp fun hne a ha b hb hab => hne ?_)
    subst hab
    have hleft := (Option.ite_none_right_eq_some.mp ha).2
    have hright := (Option.ite_none_right_eq_some.mp hb).2
    rw [Location.below?_eq_some_iff.mp hleft, Location.below?_eq_some_iff.mp hright]
  have htrans : ∀ a b c : List String, decide (¬ b < a) = true → decide (¬ c < b) = true →
      decide (¬ c < a) = true := by
    simp only [decide_eq_true_eq, not_lt]
    exact fun a b c => le_trans
  have htotal : ∀ a b : List String, (decide (¬ b < a) || decide (¬ a < b)) = true := by
    simp only [Bool.or_eq_true, decide_eq_true_eq, not_lt]
    exact le_total
  have hsorted : (t.waysBelow isWanted l).Pairwise fun a b => ¬ b < a :=
    (List.pairwise_mergeSort htrans htotal _).imp of_decide_eq_true
  exact (hsorted.and hnodup).imp fun ⟨hle, hne⟩ => lt_of_le_of_ne (not_lt.mp hle) hne

end IsFileSystem

/-- Ways that are listed in order stay so. -/
theorem waysBelow_of_sorted {ways : List (List String)}
    (h : (t.listing.filterMap fun e => if isWanted e.2 then l.below? e.1 else none) = ways)
    (hsorted : ways.Pairwise fun a b => ¬ b < a) : t.waysBelow isWanted l = ways := by
  subst h
  exact List.mergeSort_of_pairwise (hsorted.imp decide_eq_true)

/-! ## 4. Searching -/

/-- Something stands where a path leads, however long the path is, and the system lets it be seen. -/
def Leads (t : Tree base) (p : Path) (l : Location base) (host : Host base) : Prop :=
  t.resolve p p.steps host = .ok l ∧ (∃ e, t.get? l = some e) ∧ host.trouble? .look p = none

/-- Names below a path lead to a location, and what stands there.  The path may end in a link if it
leads to a folder. -/
def Reaches (t : Tree base) (d : Path) (way : List String) (l : Location base) (e : Entry)
    (host : Host base) : Prop :=
  ∃ k f, t.find d .look host = .ok (k, f) ∧ (f ≠ .folder → t.endsInLink d host = false) ∧
    l = k.below way ∧ t.get? l = some e

theorem reaches_iff_of_folder (hfind : t.find d .look host = .ok (k, .folder)) :
    t.Reaches d way l e host ↔ l = k.below way ∧ t.get? l = some e := by
  constructor
  · rintro ⟨k', f, hfind', -, hl, hentry⟩
    obtain ⟨rfl, -⟩ := Prod.mk.inj (Except.ok.inj (hfind.symm.trans hfind'))
    exact ⟨hl, hentry⟩
  · rintro ⟨hl, hentry⟩
    exact ⟨k, .folder, hfind, fun hne => absurd rfl hne, hl, hentry⟩

/-- The path leads to something that can be seen, and the names in all folders below it can be
listed. -/
structure Searchable (t : Tree base) (d : Path) (host : Host base) : Prop where
  leads : ∃ l e, t.find d .look host = .ok (l, e)
  listed : ∀ way l, t.Reaches d way l .folder host → unlisted? (d.along way) host = none

/-- **The files below a path**, in the order of their paths. -/
structure Listed (t : Tree base) (d : Path) (ps : List Path) (host : Host base) : Prop where
  sorted : ps.Pairwise Path.Before
  mem_iff : ∀ p, p ∈ ps ↔ ∃ way l bytes, t.Reaches d way l (.file bytes) host ∧ p = d.along way

/-- **There is one list of them.** -/
theorem Listed.unique (h : t.Listed d ps host) (h' : t.Listed d qs host) : ps = qs :=
  h.sorted.eq_of_mem_iff h'.sorted fun p => (h.mem_iff p).trans (h'.mem_iff p).symm

/-- Where a path leads to nothing there is no search. -/
theorem filesBelow_of_error {e : Trouble} (hfind : t.find d .look host = .error e) :
    t.filesBelow d host = .error (d, e) := by
  unfold filesBelow
  rw [hfind]

/-- A file is found by itself, if no link leads there. -/
theorem filesBelow_of_file {bytes : List UInt8} (hfind : t.find d .look host = .ok (k, .file bytes)) :
    t.filesBelow d host = .ok (if t.endsInLink d host then [] else [d]) := by
  unfold filesBelow
  rw [hfind]

/-- A folder is searched to the end if the names in all folders in it can be listed. -/
theorem filesBelow_of_folder (hfind : t.find d .look host = .ok (k, .folder)) :
    t.filesBelow d host = .ok ps ↔
      (∀ p ∈ t.pathsBelow (· = .folder) k d, unlisted? p host = none) ∧
        t.pathsBelow (· ≠ .folder) k d = ps := by
  have hnone : ((t.pathsBelow (· = .folder) k d).findSome? fun p =>
        (unlisted? p host).map (p, ·)) = none ↔
      ∀ p ∈ t.pathsBelow (· = .folder) k d, unlisted? p host = none := by
    simp [List.findSome?_eq_none_iff]
  unfold filesBelow
  rw [hfind, ← hnone]
  dsimp only
  split
  · next hrefused => simp [hrefused]
  · next hfree => simp [hfree]

namespace IsFileSystem

/-- Below a file there is nothing but the file. -/
theorem way_eq_nil_of_file (h : t.IsFileSystem) {bytes : List UInt8}
    (hk : t.get? k = some (.file bytes)) (hl : t.get? (k.below way) = some e) : way = [] := by
  by_contra hne
  have hfolder := h.folder_around hl ⟨List.nil_prefix, Ne.symm hne⟩
  rw [k.below_nil] at hfolder
  exact absurd (hfolder.symm.trans hk) nofun

/-- So from a file nothing else is reached. -/
theorem reaches_iff_of_file (h : t.IsFileSystem) {bytes : List UInt8}
    (hfind : t.find d .look host = .ok (k, .file bytes)) : t.Reaches d way l e host ↔
      t.endsInLink d host = false ∧ way = [] ∧ l = k ∧ e = .file bytes := by
  have hentry := (find_eq_ok_iff_of_host.mp hfind).2.1
  constructor
  · rintro ⟨k', f, hfind', hlink, rfl, hl⟩
    obtain ⟨rfl, rfl⟩ := Prod.mk.inj (Except.ok.inj (hfind.symm.trans hfind'))
    obtain rfl := h.way_eq_nil_of_file hentry hl
    rw [k.below_nil] at hl ⊢
    exact ⟨hlink nofun, rfl, rfl, Option.some.inj (hl.symm.trans hentry)⟩
  · rintro ⟨hlink, rfl, rfl, rfl⟩
    exact ⟨l, .file bytes, hfind, fun _ => hlink, l.below_nil.symm, hentry⟩

/-- The paths to what stands below a folder. -/
theorem mem_pathsBelow_iff (h : t.IsFileSystem) : p ∈ t.pathsBelow isWanted k d ↔
    ∃ way e, t.get? (k.below way) = some e ∧ isWanted e = true ∧ p = d.along way := by
  unfold pathsBelow
  rw [List.mem_map]
  constructor
  · rintro ⟨way, hway, rfl⟩
    obtain ⟨e, hentry, hwanted⟩ := h.mem_waysBelow_iff.mp hway
    exact ⟨way, e, hentry, hwanted, rfl⟩
  · rintro ⟨way, e, hentry, hwanted, rfl⟩
    exact ⟨way, h.mem_waysBelow_iff.mpr ⟨e, hentry, hwanted⟩, rfl⟩

/-- They are in order. -/
theorem pairwise_pathsBelow (h : t.IsFileSystem) (isWanted : Entry → Bool) (k : Location base)
    (d : Path) : (t.pathsBelow isWanted k d).Pairwise Path.Before := by
  have hnames : ∀ way ∈ t.waysBelow isWanted k, ∀ n ∈ way, IsName n := by
    intro way hway n hn
    obtain ⟨e, hentry, -⟩ := h.mem_waysBelow_iff.mp hway
    exact ((h.fits_of_get? hentry).isName n (List.mem_append_right _ hn)).1
  refine List.pairwise_map.mpr ((h.pairwise_waysBelow isWanted k).imp_of_mem ?_)
  exact fun ha hb hlt => d.before_along (hnames _ ha) (hnames _ hb) hlt

/-- **What the search finds.** -/
theorem listed_of_filesBelow (h : t.IsFileSystem) (hps : t.filesBelow d host = .ok ps) :
    t.Listed d ps host := by
  rcases hfind : t.find d .look host with trouble | ⟨k, _ | bytes⟩
  · rw [filesBelow_of_error hfind] at hps
    exact absurd hps nofun
  · obtain ⟨-, rfl⟩ := (filesBelow_of_folder hfind).mp hps
    refine ⟨h.pairwise_pathsBelow _ k d, fun p => ?_⟩
    rw [h.mem_pathsBelow_iff]
    constructor
    · rintro ⟨way, e, hentry, hwanted, rfl⟩
      cases e with
      | folder => exact absurd hwanted (by decide)
      | file bytes => exact ⟨way, _, bytes, (reaches_iff_of_folder hfind).mpr ⟨rfl, hentry⟩, rfl⟩
    · rintro ⟨way, l, bytes, hreaches, rfl⟩
      obtain ⟨rfl, hentry⟩ := (reaches_iff_of_folder hfind).mp hreaches
      exact ⟨way, _, hentry, by simp, rfl⟩
  · rw [filesBelow_of_file hfind] at hps
    obtain rfl := Except.ok.inj hps
    cases hlink : t.endsInLink d host with
    | true =>
      refine ⟨.nil, fun p => iff_of_false List.not_mem_nil ?_⟩
      rintro ⟨way, l, bytes', hreaches, -⟩
      obtain ⟨hnot, -⟩ := (h.reaches_iff_of_file hfind).mp hreaches
      exact absurd (hlink.symm.trans hnot) nofun
    | false =>
      refine ⟨List.pairwise_singleton _ _, fun p => List.mem_singleton.trans ?_⟩
      constructor
      · rintro rfl
        exact ⟨[], k, bytes, (h.reaches_iff_of_file hfind).mpr ⟨hlink, rfl, rfl, rfl⟩, rfl⟩
      · rintro ⟨way, l, bytes', hreaches, rfl⟩
        obtain ⟨-, rfl, -⟩ := (h.reaches_iff_of_file hfind).mp hreaches
        rfl

/-- **When the search comes to its end.** -/
theorem exists_filesBelow_iff (h : t.IsFileSystem) :
    (∃ ps, t.filesBelow d host = .ok ps) ↔ t.Searchable d host := by
  rcases hfind : t.find d .look host with trouble | ⟨k, _ | bytes⟩
  · rw [filesBelow_of_error hfind]
    refine iff_of_false (fun ⟨_, hps⟩ => absurd hps nofun) ?_
    rintro ⟨⟨l, e, hled⟩, -⟩
    exact absurd (hfind.symm.trans hled) nofun
  · constructor
    · rintro ⟨ps, hps⟩
      obtain ⟨hfree, -⟩ := (filesBelow_of_folder hfind).mp hps
      refine ⟨⟨k, _, hfind⟩, fun way l hreaches => ?_⟩
      obtain ⟨rfl, hentry⟩ := (reaches_iff_of_folder hfind).mp hreaches
      exact hfree _ (h.mem_pathsBelow_iff.mpr ⟨way, _, hentry, by simp, rfl⟩)
    · intro hsearchable
      refine ⟨_, (filesBelow_of_folder hfind).mpr ⟨fun p hp => ?_, rfl⟩⟩
      obtain ⟨way, e, hentry, hwanted, rfl⟩ := h.mem_pathsBelow_iff.mp hp
      obtain rfl := of_decide_eq_true hwanted
      exact hsearchable.listed way _ ((reaches_iff_of_folder hfind).mpr ⟨rfl, hentry⟩)
  · refine iff_of_true ⟨_, filesBelow_of_file hfind⟩ ⟨⟨k, _, hfind⟩, fun way l hreaches => ?_⟩
    obtain ⟨-, -, -, hfile⟩ := (h.reaches_iff_of_file hfind).mp hreaches
    exact absurd hfile nofun

/-! ## 5. Where the paths lead -/

/-- **The path to what stands below a path leads there**, if the system lets it be seen. -/
theorem leads_of_reaches (h : t.IsFileSystem) (hsuits : host.Suits t)
    (hreaches : t.Reaches d way l e host) (hlook : host.trouble? .look (d.along way) = none) :
    t.Leads (d.along way) l host := by
  obtain ⟨k, f, hfind, -, rfl, hl⟩ := hreaches
  obtain ⟨hloc, hk, -⟩ := find_eq_ok_iff_of_host.mp hfind
  obtain ⟨-, hne, hfollow⟩ := locate_eq_ok_iff.mp hloc
  refine ⟨?_, ⟨e, hl⟩, hlook⟩
  by_cases hnil : way = []
  · subst hnil
    rw [k.below_nil]
    exact resolve_eq_ok_iff.mpr ⟨hne, hfollow⟩
  · have hfolder : t.get? k = some .folder := by
      cases f with
      | folder => exact hk
      | file bytes => exact absurd (h.way_eq_nil_of_file hk hl) hnil
    have hled := follow_way_of_steps hfollow hfolder
    have hnames : ∀ n ∈ way, IsName n := fun n hn =>
      ((h.fits_of_get? hl).isName n (List.mem_append_right _ hn)).1
    obtain ⟨-, -, hrooted, htext⟩ := d.way_along hnames
    refine resolve_eq_ok_iff.mpr ⟨htext hne, ?_⟩
    have hstart : (start (d.along way) : Location base) = start d := by
      unfold start
      rw [hrooted]
    rw [hstart, d.steps_along hnames hnil, follow_append_eq_bind, hled]
    exact h.follow_names hsuits hl

end IsFileSystem

/-! ## 6. The order of the list -/

section Same

variable (hsame : ∀ l, u.get? l = t.get? l)
include hsame

/-- Where the same stands everywhere, paths lead to the same. -/
theorem follow_of_same {start : Location base} {steps : List Part} :
    u.follow start steps host = t.follow start steps host := by
  induction steps generalizing start with
  | nil => rfl
  | cons part rest ih => simp only [follow, hsame, ih]

theorem resolve_of_same (p : Path) : u.resolve p p.steps host = t.resolve p p.steps host := by
  unfold resolve
  rw [follow_of_same hsame]

theorem find_of_same (p : Path) : u.find p .look host = t.find p .look host := by
  unfold find locate resolve
  simp only [follow_of_same hsame, hsame]

theorem endsInLink_of_same (p : Path) : u.endsInLink p host = t.endsInLink p host := by
  unfold endsInLink locate resolve
  simp only [follow_of_same hsame]

theorem reaches_iff_of_same : u.Reaches d way l e host ↔ t.Reaches d way l e host := by
  unfold Reaches
  simp only [find_of_same hsame, endsInLink_of_same hsame, hsame]

theorem searchable_iff_of_same : u.Searchable d host ↔ t.Searchable d host := by
  constructor
  · rintro ⟨hleads, hlisted⟩
    rw [find_of_same hsame] at hleads
    exact ⟨hleads, fun way l h => hlisted way l ((reaches_iff_of_same hsame).mpr h)⟩
  · rintro ⟨hleads, hlisted⟩
    rw [← find_of_same hsame] at hleads
    exact ⟨hleads, fun way l h => hlisted way l ((reaches_iff_of_same hsame).mp h)⟩

theorem listed_iff_of_same : u.Listed d ps host ↔ t.Listed d ps host := by
  constructor
  · rintro ⟨hsorted, hmem⟩
    simp only [reaches_iff_of_same hsame] at hmem
    exact ⟨hsorted, hmem⟩
  · rintro ⟨hsorted, hmem⟩
    simp only [← reaches_iff_of_same hsame] at hmem
    exact ⟨hsorted, hmem⟩

end Same

/-- **In whatever order a tree lists what stands in it, the search finds the same.** -/
theorem IsFileSystem.filesBelow_of_perm (h : t.IsFileSystem) (hperm : u.entries.Perm t.entries)
    (hps : t.filesBelow d host = .ok ps) : u.filesBelow d host = .ok ps := by
  have hsame := h.get?_of_perm hperm
  have hu := h.of_perm hperm
  have hsearchable := (searchable_iff_of_same hsame).mpr (h.exists_filesBelow_iff.mp ⟨ps, hps⟩)
  obtain ⟨qs, hqs⟩ := hu.exists_filesBelow_iff.mpr hsearchable
  have hlisted := (listed_iff_of_same hsame).mp (hu.listed_of_filesBelow hqs)
  rw [(h.listed_of_filesBelow hps).unique hlisted]
  exact hqs

end Tree

end Carryover.Files
