/-
# The grammar of names

`IsLegalName` and `IsLegalPath` say what identifiers and paths are in the generated language, letter
by letter and segment by segment.  `names_accepted_iff` compares `isIdentifier` and `isPath` with
them.  Both accept all that the language does, and more:

* a keyword that the language only keeps for later use, such as `try`, counts as an identifier;
* a path may be rooted and begin with `crate`, `self` or `super` all the same.

There is no third case.  `grammar_exceeded` has one text for each of the two.

A text is cut at double colons from the left.  What is cut can be put together again
(`intercalate_pathSegments`), and what is put together from segments without colons is cut into the
same segments (`pathSegments_intercalate`).  So a path is known by how it is spelled
(`isPath_iff_spelled`), and holds nothing but words and colons (`mem_of_isPath`).
-/
import Carryover.Proofs.Text.Word

namespace Carryover

open Text

/-! ## 1. Identifiers -/

/-- The keywords of the generated language. -/
def strictKeywords : List String := [
  "as", "break", "const", "continue", "crate", "else", "enum", "extern", "false", "fn", "for",
  "if", "impl", "in", "let", "loop", "match", "mod", "move", "mut", "pub", "ref", "return", "self",
  "Self", "static", "struct", "super", "trait", "true", "type", "unsafe", "use", "where", "while",
  "async", "await", "dyn"]

/-- The keywords that have no use yet, and cannot be identifiers either. -/
def reservedKeywords : List String := [
  "abstract", "become", "box", "do", "final", "macro", "override", "priv", "typeof", "unsized",
  "virtual", "yield", "try"]

/-- ASCII letters, ASCII digits and underscores, the first of them no digit, and more than an
underscore. -/
structure IsPlainWord (s : String) : Prop where
  spelled : ∃ c cs, s.toList = c :: cs ∧ (c = '_' ∨ IsLetter c) ∧
    ∀ d ∈ cs, d = '_' ∨ IsLetter d ∨ IsNumeral d
  ne_underscore : s ≠ "_"

/-- An identifier of the generated language. -/
structure IsLegalName (s : String) : Prop extends IsPlainWord s where
  not_strict : s ∉ strictKeywords
  not_reserved : s ∉ reservedKeywords

/-- The list of keywords is complete, but for those that have no use yet. -/
theorem mem_keywords_iff {s : String} : s ∈ keywords ↔ s ∈ strictKeywords := by
  have hsub : keywords ⊆ strictKeywords := by decide
  have hsup : strictKeywords ⊆ keywords := by decide
  exact ⟨fun h => hsub h, fun h => hsup h⟩

/-- What is asked of a text that is not empty. -/
theorem isIdentifier_iff_of_cons {s : String} {c : Char} {cs : List Char} (hs : s.toList = c :: cs) :
    isIdentifier s = true ↔ ((c = '_' ∨ IsLetter c) ∧ ∀ d ∈ cs, d = '_' ∨ IsLetter d ∨ IsNumeral d) ∧
      s ≠ "_" ∧ s ∉ strictKeywords := by
  unfold isIdentifier
  simp only [hs, Bool.and_eq_true, isWordStart_iff, List.all_eq_true, isWordChar_iff, bne_iff_ne,
    Bool.not_eq_true', ← Bool.not_eq_true, List.contains_iff_mem, mem_keywords_iff, and_assoc]

theorem isIdentifier_iff_plainWord {s : String} :
    isIdentifier s = true ↔ IsPlainWord s ∧ s ∉ strictKeywords := by
  constructor
  · intro h
    cases hs : s.toList with
    | nil => simp [isIdentifier, hs] at h
    | cons c cs =>
      obtain ⟨hspelled, hne, hkeyword⟩ := (isIdentifier_iff_of_cons hs).mp h
      exact ⟨⟨⟨c, cs, hs, hspelled⟩, hne⟩, hkeyword⟩
  · rintro ⟨⟨⟨c, cs, hs, hspelled⟩, hne⟩, hkeyword⟩
    exact (isIdentifier_iff_of_cons hs).mpr ⟨hspelled, hne, hkeyword⟩

/-- **Identifiers are accepted, and reserved keywords.** -/
theorem isIdentifier_iff_isLegalName {s : String} :
    isIdentifier s = true ↔ IsLegalName s ∨ s ∈ reservedKeywords := by
  constructor
  · intro h
    obtain ⟨hplain, hstrict⟩ := isIdentifier_iff_plainWord.mp h
    by_cases hreserved : s ∈ reservedKeywords
    · exact .inr hreserved
    · exact .inl ⟨hplain, hstrict, hreserved⟩
  · rintro (h | h)
    · exact isIdentifier_iff_plainWord.mpr ⟨h.toIsPlainWord, h.not_strict⟩
    · have hall : reservedKeywords.all isIdentifier = true := by decide
      exact List.all_eq_true.mp hall s h

/-! ## 2. Double colons -/

/-- A text has one segment at least. -/
theorem pathSegments_ne_nil (cs : List Char) : pathSegments cs ≠ [] := by
  induction cs using pathSegments.induct with
  | case1 => exact List.cons_ne_nil _ _
  | case2 cs _ =>
    rw [pathSegments]
    exact List.cons_ne_nil _ _
  | case3 d cs hroot hnil ih => exact absurd hnil ih
  | case4 d cs hroot segment segments hparts _ =>
    rw [pathSegments.eq_3 d cs hroot, hparts]
    exact List.cons_ne_nil _ _

/-- A character other than a colon belongs to the first segment. -/
theorem pathSegments_cons {c : Char} (hc : c ≠ ':') {cs segment : List Char}
    {segments : List (List Char)} (h : pathSegments cs = segment :: segments) :
    pathSegments (c :: cs) = (c :: segment) :: segments := by
  rw [pathSegments.eq_3 c cs fun _ hcolon => absurd hcolon hc, h]

/-- A text without colons is one segment. -/
theorem pathSegments_of_no_colon {segment : List Char} (h : ':' ∉ segment) :
    pathSegments segment = [segment] := by
  induction segment with
  | nil => rfl
  | cons c segment ih =>
    have hc : c ≠ ':' := (List.ne_of_not_mem_cons h).symm
    exact pathSegments_cons hc (ih (List.not_mem_of_not_mem_cons h))

/-- A segment without colons ends at a double colon. -/
theorem pathSegments_append {segment : List Char} (h : ':' ∉ segment) (cs : List Char) :
    pathSegments (segment ++ ':' :: ':' :: cs) = segment :: pathSegments cs := by
  induction segment with
  | nil => rfl
  | cons c segment ih =>
    have hc : c ≠ ':' := (List.ne_of_not_mem_cons h).symm
    exact pathSegments_cons hc (ih (List.not_mem_of_not_mem_cons h))

/-- **What is put together is cut into the same segments**, if they are without colons. -/
theorem pathSegments_intercalate {segments : List (List Char)} (hne : segments ≠ [])
    (h : ∀ segment ∈ segments, ':' ∉ segment) :
    pathSegments ([':', ':'].intercalate segments) = segments := by
  induction segments with
  | nil => exact absurd rfl hne
  | cons segment segments ih =>
    obtain ⟨hsegment, hsegments⟩ := List.forall_mem_cons.mp h
    cases segments with
    | nil => simpa using pathSegments_of_no_colon hsegment
    | cons next segments =>
      rw [List.intercalate_cons_cons, List.append_assoc]
      exact (pathSegments_append hsegment _).trans
        (congrArg (segment :: ·) (ih (List.cons_ne_nil _ _) hsegments))

/-- **What is cut can be put together again.** -/
theorem intercalate_pathSegments (cs : List Char) :
    [':', ':'].intercalate (pathSegments cs) = cs := by
  induction cs using pathSegments.induct with
  | case1 => rfl
  | case2 cs ih =>
    rw [pathSegments, List.intercalate_cons_of_ne_nil (pathSegments_ne_nil cs), ih]
    rfl
  | case3 d cs _ hnil _ => exact absurd hnil (pathSegments_ne_nil cs)
  | case4 d cs hroot segment segments hparts ih =>
    rw [pathSegments.eq_3 d cs hroot, hparts]
    rw [hparts] at ih
    rw [List.intercalate_cons_cons_left, ih]

/-- What is put together holds what its parts hold, and what is put between them. -/
theorem mem_intercalate {c : Char} {between : List Char} {parts : List (List Char)}
    (h : c ∈ between.intercalate parts) : c ∈ between ∨ ∃ part ∈ parts, c ∈ part := by
  induction parts with
  | nil => exact absurd h List.not_mem_nil
  | cons part parts ih =>
    cases parts with
    | nil => exact .inr ⟨part, List.mem_cons_self, by simpa using h⟩
    | cons next parts =>
      rw [List.intercalate_cons_cons, List.mem_append, List.mem_append] at h
      rcases h with (h | h) | h
      · exact .inr ⟨part, List.mem_cons_self, h⟩
      · exact .inl h
      · exact (ih h).imp_right fun ⟨part, hpart, hc⟩ => ⟨part, List.mem_cons_of_mem _ hpart, hc⟩

/-! ## 3. Paths -/

/-- Segments with double colons between them. -/
def pathText (segments : List String) : String :=
  "::".intercalate segments

/-- Where a path can begin besides a name. -/
def pathHeads : List String :=
  ["crate", "self", "super"]

/-- The paths over names of some kind. -/
inductive IsPathOver (Name : String → Prop) : String → Prop where
  /-- Names. -/
  | plain {segments : List String} (hne : segments ≠ []) (hnames : ∀ n ∈ segments, Name n) :
      IsPathOver Name (pathText segments)
  /-- Names behind a double colon. -/
  | rooted {segments : List String} (hne : segments ≠ []) (hnames : ∀ n ∈ segments, Name n) :
      IsPathOver Name ("::" ++ pathText segments)
  /-- Names behind one of the heads. -/
  | headed {head : String} {segments : List String} (hhead : head ∈ pathHeads)
      (hnames : ∀ n ∈ segments, Name n) : IsPathOver Name (pathText (head :: segments))

/-- A path of the generated language. -/
def IsLegalPath (s : String) : Prop :=
  IsPathOver IsLegalName s

/-- What counts as a name. -/
def IsAcceptedName (s : String) : Prop :=
  IsLegalName s ∨ s ∈ reservedKeywords

/-- The heads are the segments that are accepted in front of a path. -/
theorem pathStarts_eq : pathStarts = pathHeads :=
  rfl

theorem toList_pathText (segments : List String) :
    (pathText segments).toList = [':', ':'].intercalate (segments.map String.toList) := by
  unfold pathText
  rw [String.toList_intercalate]
  rfl

/-- Names and heads are words. -/
theorem isWordChar_of_accepted {n : String} (h : isIdentifier n = true ∨ n ∈ pathHeads) :
    ∀ c ∈ n.toList, isWordChar c = true := by
  rcases h with h | h
  · exact isWordChar_of_isIdentifier h
  · have hall : pathHeads.all (·.toList.all isWordChar) = true := by decide
    exact List.all_eq_true.mp (List.all_eq_true.mp hall n h)

/-- So they are without colons, and not empty. -/
theorem no_colon_of_accepted {n : String} (h : isIdentifier n = true ∨ n ∈ pathHeads) :
    n ≠ "" ∧ ':' ∉ n.toList := by
  constructor
  · rintro rfl
    exact absurd h (by decide)
  · intro hcolon
    exact absurd (isWordChar_of_accepted h ':' hcolon) (by decide)

/-- **A text is accepted as a path by its segments**, behind the double colon that may be in
front. -/
theorem isPath_iff_segments {s : String} :
    isPath s = true ↔ ∃ first rest, dropRoot s.toList = (pathText (first :: rest)).toList ∧
      (isIdentifier first = true ∨ first ∈ pathHeads) ∧ ∀ n ∈ rest, isIdentifier n = true := by
  unfold isPath
  constructor
  · intro h
    have htext := intercalate_pathSegments (dropRoot s.toList)
    cases hsegments : (pathSegments (dropRoot s.toList)).map String.ofList with
    | nil => simp [hsegments] at h
    | cons first rest =>
      simp only [hsegments, Bool.and_eq_true, Bool.or_eq_true, List.all_eq_true,
        List.contains_iff_mem, pathStarts_eq] at h
      refine ⟨first, rest, ?_, h⟩
      have hlists : pathSegments (dropRoot s.toList) = (first :: rest).map String.toList := by
        rw [← hsegments, List.map_map]
        simp
      rw [toList_pathText, ← hlists, htext]
  · rintro ⟨first, rest, htext, hfirst, hrest⟩
    have hcolons : ∀ segment ∈ (first :: rest).map String.toList, ':' ∉ segment := by
      intro segment hsegment
      obtain ⟨n, hn, rfl⟩ := List.mem_map.mp hsegment
      rcases List.mem_cons.mp hn with rfl | hn
      · exact (no_colon_of_accepted hfirst).2
      · exact (no_colon_of_accepted (.inl (hrest n hn))).2
    have hsegments : (pathSegments (dropRoot s.toList)).map String.ofList = first :: rest := by
      rw [htext, toList_pathText, pathSegments_intercalate (by simp) hcolons, List.map_map]
      simp
    simp only [hsegments, Bool.and_eq_true, Bool.or_eq_true, List.all_eq_true,
      List.contains_iff_mem, pathStarts_eq]
    exact ⟨hfirst, hrest⟩

/-- The first segment can be read off the text. -/
theorem head?_pathSegments_pathText {first : String} (h : ':' ∉ first.toList)
    (rest : List String) :
    (pathSegments (pathText (first :: rest)).toList).head? = some first.toList := by
  rw [toList_pathText]
  cases rest with
  | nil => simp [pathSegments_of_no_colon h]
  | cons next rest =>
    rw [List.map_cons, List.map_cons, List.intercalate_cons_cons, List.append_assoc]
    exact congrArg List.head? (pathSegments_append h _)

/-- Without the double colon in front, a path does not begin with a colon. -/
theorem head?_pathText {first : String} (h : isIdentifier first = true ∨ first ∈ pathHeads)
    (rest : List String) : ∀ c ∈ (pathText (first :: rest)).toList.head?, c ≠ ':' := by
  obtain ⟨hne, hcolon⟩ := no_colon_of_accepted h
  obtain ⟨c, cs, hfirst⟩ := List.exists_cons_of_ne_nil (mt String.toList_eq_nil_iff.mp hne)
  rw [toList_pathText, List.map_cons, hfirst, List.intercalate_cons_cons_left]
  rintro _ ⟨⟩ rfl
  exact hcolon (by rw [hfirst]; exact List.mem_cons_self)

/-- The double colon in front is taken off once. -/
theorem dropRoot_eq_iff {s t : String} (ht : ∀ c ∈ t.toList.head?, c ≠ ':') :
    dropRoot s.toList = t.toList ↔ s = t ∨ s = "::" ++ t := by
  constructor
  · intro h
    unfold dropRoot at h
    split at h
    · next cs hs =>
      refine .inr (String.toList_inj.mp ?_)
      rw [hs, h, String.toList_append]
      rfl
    · exact .inl (String.toList_inj.mp h)
  · rintro (rfl | rfl)
    · unfold dropRoot
      split
      · next cs hs =>
        rw [hs] at ht
        exact absurd rfl (ht ':' rfl)
      · rfl
    · rw [String.toList_append]
      rfl

/-- A path is accepted as a row of segments, with a double colon in front or without. -/
theorem isPath_iff_spelled {s : String} :
    isPath s = true ↔ ∃ first rest,
      (s = pathText (first :: rest) ∨ s = "::" ++ pathText (first :: rest)) ∧
        (isIdentifier first = true ∨ first ∈ pathHeads) ∧ ∀ n ∈ rest, isIdentifier n = true := by
  rw [isPath_iff_segments]
  constructor
  · rintro ⟨first, rest, htext, hfirst, hrest⟩
    exact ⟨first, rest, (dropRoot_eq_iff (head?_pathText hfirst rest)).mp htext, hfirst, hrest⟩
  · rintro ⟨first, rest, htext, hfirst, hrest⟩
    exact ⟨first, rest, (dropRoot_eq_iff (head?_pathText hfirst rest)).mpr htext, hfirst, hrest⟩

/-- A path holds words and colons. -/
theorem mem_of_isPath {path : String} (h : isPath path = true) :
    ∀ c ∈ path.toList, c = ':' ∨ isWordChar c = true := by
  obtain ⟨first, rest, htext, hfirst, hrest⟩ := isPath_iff_spelled.mp h
  have hsegments : ∀ n ∈ first :: rest, ∀ c ∈ n.toList, isWordChar c = true :=
    List.forall_mem_cons.mpr
      ⟨isWordChar_of_accepted hfirst, fun n hn => isWordChar_of_isIdentifier (hrest n hn)⟩
  have hunrooted : ∀ c ∈ (pathText (first :: rest)).toList, c = ':' ∨ isWordChar c = true := by
    intro c hc
    rw [toList_pathText] at hc
    rcases mem_intercalate hc with hc | ⟨segment, hsegment, hc⟩
    · exact .inl (by simpa using hc)
    · obtain ⟨n, hn, rfl⟩ := List.mem_map.mp hsegment
      exact .inr (hsegments n hn c hc)
  rcases htext with rfl | rfl
  · exact hunrooted
  · intro c hc
    rw [String.toList_append, List.mem_append] at hc
    rcases hc with hc | hc
    · exact .inl (by simpa using hc)
    · exact hunrooted c hc

/-- **Paths are accepted, with reserved keywords for names, and rooted paths behind a head.** -/
theorem isPath_iff_isPathOver {s : String} :
    isPath s = true ↔ IsPathOver IsAcceptedName s ∨
      ∃ head ∈ pathHeads, ∃ segments, (∀ n ∈ segments, IsAcceptedName n) ∧
        s = "::" ++ pathText (head :: segments) := by
  have hname : ∀ n, isIdentifier n = true ↔ IsAcceptedName n :=
    fun _ => isIdentifier_iff_isLegalName
  simp only [isPath_iff_spelled, hname]
  constructor
  · rintro ⟨first, rest, rfl | rfl, hname | hhead, hrest⟩
    · exact .inl (.plain (List.cons_ne_nil _ _) (List.forall_mem_cons.mpr ⟨hname, hrest⟩))
    · exact .inl (.headed hhead hrest)
    · exact .inl (.rooted (List.cons_ne_nil _ _) (List.forall_mem_cons.mpr ⟨hname, hrest⟩))
    · exact .inr ⟨first, hhead, rest, hrest, rfl⟩
  · rintro (hpath | ⟨head, hhead, segments, hnames, rfl⟩)
    · cases hpath with
      | plain hne hnames =>
        obtain ⟨first, rest, rfl⟩ := List.exists_cons_of_ne_nil hne
        obtain ⟨hfirst, hrest⟩ := List.forall_mem_cons.mp hnames
        exact ⟨first, rest, .inl rfl, .inl hfirst, hrest⟩
      | rooted hne hnames =>
        obtain ⟨first, rest, rfl⟩ := List.exists_cons_of_ne_nil hne
        obtain ⟨hfirst, hrest⟩ := List.forall_mem_cons.mp hnames
        exact ⟨first, rest, .inr rfl, .inl hfirst, hrest⟩
      | headed hhead hnames => exact ⟨_, _, .inl rfl, .inr hhead, hnames⟩
    · exact ⟨head, segments, .inr rfl, .inr hhead, hnames⟩

/-! ## 4. The grammar and its recognisers -/

/-- **What is accepted beyond the grammar.**  Every identifier is accepted, and of all other texts
the reserved keywords.  Every path is accepted, also with reserved keywords among its names, and
apart from those the rooted paths behind a head. -/
theorem names_accepted_iff (s : String) :
    (isIdentifier s = true ↔ IsLegalName s ∨ s ∈ reservedKeywords) ∧
      (isPath s = true ↔ IsPathOver (fun n => IsLegalName n ∨ n ∈ reservedKeywords) s ∨
        ∃ head ∈ pathHeads, ∃ segments, (∀ n ∈ segments, IsLegalName n ∨ n ∈ reservedKeywords) ∧
          s = "::" ++ pathText (head :: segments)) :=
  ⟨isIdentifier_iff_isLegalName, isPath_iff_isPathOver⟩

/-- No head is a name. -/
theorem not_isLegalName_of_mem_pathHeads {head : String} (h : head ∈ pathHeads) :
    ¬ IsLegalName head := by
  have hstrict : pathHeads ⊆ strictKeywords := by decide
  exact fun hname => hname.not_strict (hstrict h)

/-- **A rooted path behind a head is no path of the language**, whatever follows. -/
theorem not_isLegalPath_rooted {head : String} (hhead : head ∈ pathHeads) (segments : List String) :
    ¬ IsLegalPath ("::" ++ pathText (head :: segments)) := by
  have hname : ∀ n, IsLegalName n → isIdentifier n = true ∨ n ∈ pathHeads :=
    fun n hn => .inl (isIdentifier_iff_isLegalName.mpr (.inl hn))
  have hroot : ∀ first rest, (isIdentifier first = true ∨ first ∈ pathHeads) →
      "::" ++ pathText (head :: segments) ≠ pathText (first :: rest) := by
    intro first rest hfirst heq
    refine head?_pathText hfirst rest ':' ?_ rfl
    rw [← heq, String.toList_append]
    rfl
  intro hpath
  generalize htext : "::" ++ pathText (head :: segments) = text at hpath
  cases hpath with
  | @plain names hne hnames =>
    obtain ⟨first, rest, rfl⟩ := List.exists_cons_of_ne_nil hne
    exact hroot first rest (hname first (hnames first List.mem_cons_self)) htext
  | @rooted names hne hnames =>
    obtain ⟨first, rest, rfl⟩ := List.exists_cons_of_ne_nil hne
    have hfirst : IsLegalName first := hnames first List.mem_cons_self
    have htexts : pathText (head :: segments) = pathText (first :: rest) := by
      simpa [← String.toList_inj] using htext
    have hheads := head?_pathSegments_pathText (no_colon_of_accepted (.inr hhead)).2 segments
    rw [htexts, head?_pathSegments_pathText (no_colon_of_accepted (hname first hfirst)).2] at hheads
    have heq : first = head := String.toList_inj.mp (Option.some.inj hheads)
    exact not_isLegalName_of_mem_pathHeads hhead (heq ▸ hfirst)
  | @headed first rest hfirst _ => exact hroot first rest (.inr hfirst) htext

/-- **The grammar is exceeded** by a keyword that is kept for later use, and by a rooted path that
begins with `crate`. -/
theorem grammar_exceeded :
    (isIdentifier "try" = true ∧ ¬ IsLegalName "try") ∧
      isPath "::crate::Spec" = true ∧ ¬ IsLegalPath "::crate::Spec" := by
  refine ⟨⟨by decide, fun h => h.not_reserved (by decide)⟩, by decide, ?_⟩
  have htext : "::crate::Spec" = "::" ++ pathText ["crate", "Spec"] := by decide
  rw [htext]
  exact not_isLegalPath_rooted (by decide) ["Spec"]

end Carryover
