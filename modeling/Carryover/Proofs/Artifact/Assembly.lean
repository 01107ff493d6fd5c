/-
# How a module is put together

The text of a module is a row of pieces (`Spec.modulePieces`): the header comment, the two
implementations, and the types.  Between neighbours stands one empty line, and every source is taken
over as it is.  So the sources among the pieces are those of the overrides, of the component's own
functions and of the types, in this order, each once (`sources_modulePieces`).  How the functions of
the two places are mixed in the set of artifacts makes no difference.

The header ends at the first empty line of the module, and all lines above it are comments, whatever
the path of the spec holds: a line break in it begins another comment line
(`takeWhile_split_headerBlock`).

`moduleText_assembled` puts this together.
-/
import Carryover.Proofs.Artifact.ModuleLayout
import Carryover.Proofs.Files.Path

namespace Carryover

open Source

/-! ## 1. Pieces -/

/-- The header of a module: its lines as comments, and an empty line. -/
def headerBlock (header : String) : String :=
  String.join ((Text.lines header.toList).map fun l => Buffer.commentLine l ++ "\n") ++ "\n"

/-- A piece of a module. -/
inductive Piece where
  /-- The header comment. -/
  | comment (header : String)
  /-- An implementation that holds nothing. -/
  | emptyImpl (header : String)
  /-- The line that an implementation begins with. -/
  | openImpl (header : String)
  /-- The source of a function or of a type. -/
  | source (text : String)
  /-- The empty line between neighbours. -/
  | gap
  /-- The line that an implementation ends with. -/
  | closeImpl
  deriving DecidableEq, Repr

namespace Piece

/-- The text of a piece. -/
def text : Piece → String
  | comment header => headerBlock header
  | emptyImpl header => header ++ " \x7b\x7d\n"
  | openImpl header => header ++ " \x7b\n"
  | source text => text
  | gap => "\n"
  | closeImpl => "\x7d\n"

/-- The source that a piece is, if it is one. -/
def source? : Piece → Option String
  | source text => some text
  | _ => none

/-- The text of pieces. -/
def textOf (ps : List Piece) : String :=
  String.join (ps.map text)

/-- The sources among pieces. -/
def sourcesOf (ps : List Piece) : List String :=
  ps.filterMap source?

@[simp] theorem textOf_nil : textOf [] = "" :=
  rfl

@[simp] theorem textOf_cons (p : Piece) (ps : List Piece) : textOf (p :: ps) = p.text ++ textOf ps := by
  simp [textOf]

@[simp] theorem textOf_append (ps qs : List Piece) : textOf (ps ++ qs) = textOf ps ++ textOf qs := by
  simp [textOf]

@[simp] theorem sourcesOf_append (ps qs : List Piece) :
    sourcesOf (ps ++ qs) = sourcesOf ps ++ sourcesOf qs :=
  List.filterMap_append

end Piece

/-- The pieces of an implementation: the sources, with a gap between neighbours. -/
def implPieces (header : String) (sources : List String) : List Piece :=
  if sources = [] then [.emptyImpl header]
  else .openImpl header :: (sources.map .source).intersperse .gap ++ [.closeImpl]

/-- The pieces of types, each with a gap in front of it. -/
def typePieces (types : List TypeArtifact) : List Piece :=
  types.flatMap fun t => [.gap, .source t.source]

/-- **The pieces of a module.** -/
def Spec.modulePieces (s : Spec) (a : Artifacts) : List Piece :=
  [.comment (moduleHeader s)] ++
    implPieces ("impl " ++ s.handles.item "ComponentState" ++ " for " ++ s.component)
      (a.sources .override) ++
    (if a.sources .inherent = [] then []
      else .gap :: implPieces ("impl " ++ s.component) (a.sources .inherent)) ++
    typePieces a.types

/-! ## 2. What is written -/

/-- At the margin a line is its text and a break, also if it is empty. -/
theorem render_zero (t : String) : render 0 t = t ++ "\n" := by
  unfold render
  split
  · next h =>
    obtain rfl : t = "" := by simpa using h
    rfl
  · rfl

/-- The buffer is at the margin, and this is its text. -/
structure Source.Buffer.Reads (b : Buffer) (text : String) : Prop where
  level : b.level = 0
  text : b.text = text

namespace Source.Buffer.Reads

variable {b : Buffer} {t : String}

theorem raw (h : b.Reads t) (source : String) : (b.raw source).Reads (t ++ source) :=
  ⟨h.level, congrArg (· ++ source) h.text⟩

theorem blank (h : b.Reads t) : b.blank.Reads (t ++ "\n") :=
  h.raw "\n"

theorem line (h : b.Reads t) (text : String) : (b.line text).Reads (t ++ (text ++ "\n")) := by
  unfold Buffer.line
  rw [h.level, render_zero]
  exact h.raw _

/-- The header of a module. -/
theorem withHeader (header : String) : (Buffer.withHeader header).Reads (headerBlock header) := by
  have hlines : ∀ (ls : List (List Char)) (b : Buffer) (t : String), b.Reads t →
      (ls.foldl (fun b l => b.line (commentLine l)) b).Reads
        (t ++ String.join (ls.map fun l => commentLine l ++ "\n")) := by
    intro ls
    induction ls with
    | nil =>
      intro b t h
      simpa using h
    | cons l ls ih =>
      intro b t h
      have hrest := ih _ _ (h.line (commentLine l))
      rwa [String.append_assoc, ← String.join_cons] at hrest
  have hempty : Buffer.empty.Reads "" := ⟨rfl, rfl⟩
  have hall := (hlines (Text.lines header.toList) _ _ hempty).blank
  rwa [String.empty_append] at hall

/-- Sources with gaps between them. -/
theorem writeSources (h : b.Reads t) (sources : List String) :
    (writeSources sources b).Reads
      (t ++ Piece.textOf ((sources.map Piece.source).intersperse .gap)) := by
  induction sources generalizing b t with
  | nil => simpa [Carryover.writeSources] using h
  | cons source rest ih =>
    cases rest with
    | nil => simpa [Carryover.writeSources, Piece.text] using h.raw source
    | cons next rest =>
      have hrest := ih (h.raw source).blank
      simpa [Carryover.writeSources, Piece.text, String.append_assoc] using hrest

/-- An implementation. -/
theorem writeImpl (h : b.Reads t) (header : String) (sources : List String) :
    (writeImpl header sources b).Reads (t ++ Piece.textOf (implPieces header sources)) := by
  unfold Carryover.writeImpl implPieces
  by_cases hnone : sources = []
  · rw [if_pos (by simpa using hnone), if_pos hnone]
    simpa [Piece.text, String.append_assoc] using h.line (header ++ " \x7b\x7d")
  · rw [if_neg (by simpa using hnone), if_neg hnone]
    have hopened := h.line (opening header)
    have hclosed := (hopened.writeSources sources).line "\x7d"
    simpa [Piece.text, opening, String.append_assoc] using hclosed

/-- Types. -/
theorem writeTypes (h : b.Reads t) (types : List TypeArtifact) :
    (types.foldl (fun b t => b.blank.raw t.source) b).Reads
      (t ++ Piece.textOf (typePieces types)) := by
  induction types generalizing b t with
  | nil => simpa [typePieces] using h
  | cons first types ih =>
    have hrest := ih (h.blank.raw first.source)
    simpa [typePieces, Piece.text, String.append_assoc] using hrest

end Source.Buffer.Reads

/-- **The text of a module is that of its pieces.** -/
theorem moduleText_eq_textOf (s : Spec) (a : Artifacts) :
    s.moduleText a = Piece.textOf (s.modulePieces a) := by
  have hoverrides := (Buffer.Reads.withHeader (moduleHeader s)).writeImpl
    ("impl " ++ s.handles.item "ComponentState" ++ " for " ++ s.component) (a.sources .override)
  unfold Spec.moduleText Spec.modulePieces
  by_cases hnone : a.sources .inherent = []
  · have hall := hoverrides.writeTypes a.types
    simpa [hnone, Piece.text, String.append_assoc] using hall.text
  · have hown := hoverrides.blank.writeImpl ("impl " ++ s.component) (a.sources .inherent)
    have hall := hown.writeTypes a.types
    simpa [hnone, Piece.text, String.append_assoc] using hall.text

/-! ## 3. What is taken over -/

/-- The sources of an implementation are those that it was given. -/
theorem sourcesOf_implPieces (header : String) (sources : List String) :
    Piece.sourcesOf (implPieces header sources) = sources := by
  have hgaps : Piece.sourcesOf ((sources.map Piece.source).intersperse .gap) = sources := by
    induction sources with
    | nil => rfl
    | cons source rest ih =>
      cases rest with
      | nil => rfl
      | cons next rest => exact congrArg (source :: ·) ih
  unfold implPieces
  split
  · next hnone => exact hnone.symm
  · calc Piece.sourcesOf (.openImpl header :: (sources.map .source).intersperse .gap ++ [.closeImpl])
        = Piece.sourcesOf ((sources.map Piece.source).intersperse .gap) ++ [] :=
          Piece.sourcesOf_append _ _
      _ = sources := by rw [List.append_nil, hgaps]

theorem sourcesOf_typePieces (types : List TypeArtifact) :
    Piece.sourcesOf (typePieces types) = types.map (·.source) := by
  induction types with
  | nil => rfl
  | cons first types ih => exact congrArg (first.source :: ·) ih

/-- **The sources among the pieces of a module** are those of its artifacts, in order. -/
theorem sources_modulePieces (s : Spec) (a : Artifacts) :
    Piece.sourcesOf (s.modulePieces a) =
      a.sources .override ++ a.sources .inherent ++ a.types.map (·.source) := by
  have hown : Piece.sourcesOf (if a.sources .inherent = [] then []
      else .gap :: implPieces ("impl " ++ s.component) (a.sources .inherent)) =
        a.sources .inherent := by
    split
    · next hnone => exact hnone.symm
    · exact sourcesOf_implPieces _ _
  unfold Spec.modulePieces
  rw [Piece.sourcesOf_append, Piece.sourcesOf_append, Piece.sourcesOf_append, hown,
    sourcesOf_implPieces, sourcesOf_typePieces]
  rfl

/-- An implementation that holds something begins with its header. -/
theorem openImpl_mem_implPieces {h header : String} {sources : List String} :
    .openImpl h ∈ implPieces header sources ↔ h = header ∧ sources ≠ [] := by
  have hgaps : ∀ sources : List String,
      .openImpl h ∉ (sources.map Piece.source).intersperse .gap := by
    intro sources
    induction sources with
    | nil => exact List.not_mem_nil
    | cons source rest ih =>
      cases rest with
      | nil => simp
      | cons next rest => simpa using ih
  unfold implPieces
  by_cases hnone : sources = []
  · simp [hnone]
  · simp [hnone, hgaps]

/-- **There is a second implementation if a function is the component's own.** -/
theorem openImpl_mem_modulePieces {s : Spec} {a : Artifacts} :
    .openImpl ("impl " ++ s.component) ∈ s.modulePieces a ↔
      ∃ f ∈ a.functions, f.placement = .inherent := by
  -- The header of the first implementation is longer.
  have hlonger : "impl " ++ s.component ≠
      "impl " ++ s.handles.item "ComponentState" ++ " for " ++ s.component := by
    intro heq
    have hlength := congrArg String.length heq
    simp only [String.length_append] at hlength
    have hfor : " for ".length = 5 := rfl
    omega
  have hsome : a.sources .inherent ≠ [] ↔ ∃ f ∈ a.functions, f.placement = .inherent := by
    simp [Artifacts.sources, Artifacts.placed]
  unfold Spec.modulePieces typePieces
  rw [← hsome]
  by_cases hnone : a.sources .inherent = []
  · simp [hnone, openImpl_mem_implPieces, hlonger]
  · simp [hnone, openImpl_mem_implPieces, hlonger]

/-! ## 4. Header comments -/

/-- The characters of a comment line. -/
def commentChars (l : List Char) : List Char :=
  (Buffer.commentLine l).toList

theorem prefix_commentChars (l : List Char) : "//".toList <+: commentChars l := by
  unfold commentChars Buffer.commentLine
  split
  · exact List.prefix_rfl
  · rw [String.toList_append]
    exact ⟨' ' :: (String.ofList l).toList, rfl⟩

/-- A comment line has no break. -/
theorem not_mem_commentChars {l : List Char} (h : '\n' ∉ l) : '\n' ∉ commentChars l := by
  unfold commentChars Buffer.commentLine
  split
  · decide
  · rw [String.toList_append]
    intro hmem
    rcases List.mem_append.mp hmem with hslashes | hline
    · exact absurd hslashes (by decide)
    · rw [String.toList_ofList] at hline
      exact h hline

/-- Lines without breaks, each with a break behind it, are cut into these lines again. -/
theorem Text.split_flatMap_lines {ls : List (List Char)} (h : ∀ l ∈ ls, '\n' ∉ l) (rest : List Char) :
    split (· == '\n') (ls.flatMap (· ++ ['\n']) ++ rest) = ls ++ split (· == '\n') rest := by
  induction ls with
  | nil => rfl
  | cons l ls ih =>
    obtain ⟨hl, hls⟩ := List.forall_mem_cons.mp h
    have hplain : ∀ c ∈ l, (c == '\n') = false := by
      intro c hc
      have hne : c ≠ '\n' := fun he => hl (he ▸ hc)
      simpa using hne
    have hcut : (l :: ls).flatMap (· ++ ['\n']) ++ rest =
        l ++ '\n' :: (ls.flatMap (· ++ ['\n']) ++ rest) := by
      simp
    rw [hcut, split_append_cons (by decide), split_of_forall_not hplain, ih hls]
    rfl

/-- What follows a header begins behind its comment lines and the empty line. -/
theorem split_headerBlock (header : String) (rest : List Char) :
    Text.split (· == '\n') ((headerBlock header).toList ++ rest) =
      (Text.lines header.toList).map commentChars ++ [] :: Text.split (· == '\n') rest := by
  have hbreaks : ∀ l ∈ (Text.lines header.toList).map commentChars, '\n' ∉ l := by
    intro l hl
    obtain ⟨line, hline, rfl⟩ := List.mem_map.mp hl
    exact not_mem_commentChars fun hmem => (Text.mem_of_mem_lines hline hmem).2 rfl
  have htext : (headerBlock header).toList ++ rest =
      ((Text.lines header.toList).map commentChars).flatMap (· ++ ['\n']) ++ '\n' :: rest := by
    simp [headerBlock, commentChars, List.flatMap_map]
  have hempty : Text.split (· == '\n') ('\n' :: rest) = [] :: Text.split (· == '\n') rest := by
    simp [Text.split]
  rw [htext, Text.split_flatMap_lines hbreaks, hempty]

/-- **Up to the first empty line there are the comment lines of the header.** -/
theorem takeWhile_split_headerBlock (header : String) (rest : List Char) :
    (Text.split (· == '\n') ((headerBlock header).toList ++ rest)).takeWhile (· ≠ []) =
      (Text.lines header.toList).map commentChars := by
  have hlines : ∀ l ∈ (Text.lines header.toList).map commentChars, decide (l ≠ []) = true := by
    intro l hl
    obtain ⟨line, -, rfl⟩ := List.mem_map.mp hl
    obtain ⟨more, hmore⟩ := prefix_commentChars line
    rw [← hmore]
    rfl
  rw [split_headerBlock, List.takeWhile_append_of_pos hlines]
  simp

/-! ## 5. The module -/

/-- **A module drops, repeats and reorders nothing.**  Its text is that of its pieces; the sources
among these are the sources of the overrides, of the component's own functions and of the types, in
order; and there is an implementation for functions of its own if it has any.  Artifacts that agree in
each of the three give the same text, whatever their order otherwise.  The lines up to the first empty
one are the comment lines of the header. -/
theorem moduleText_assembled (s : Spec) (a : Artifacts) :
    s.moduleText a = Piece.textOf (s.modulePieces a) ∧
    Piece.sourcesOf (s.modulePieces a) =
      (a.placed .override).map (·.source) ++ (a.placed .inherent).map (·.source) ++
        a.types.map (·.source) ∧
    (.openImpl ("impl " ++ s.component) ∈ s.modulePieces a ↔
      ∃ f ∈ a.functions, f.placement = .inherent) ∧
    (∀ b : Artifacts,
      (∀ p, (a.placed p).map (·.source) = (b.placed p).map (·.source)) →
      a.types.map (·.source) = b.types.map (·.source) → s.moduleText a = s.moduleText b) ∧
    (Text.split (· == '\n') (s.moduleText a).toList).takeWhile (· ≠ []) =
      (Text.lines (moduleHeader s).toList).map commentChars ∧
    [] ∈ Text.split (· == '\n') (s.moduleText a).toList ∧
    ∀ line ∈ (Text.split (· == '\n') (s.moduleText a).toList).takeWhile (· ≠ []),
      "//".toList <+: line := by
  have htext := moduleText_eq_textOf s a
  have hheader : ∃ rest, (s.moduleText a).toList = (headerBlock (moduleHeader s)).toList ++ rest := by
    rw [htext]
    simp [Spec.modulePieces, Piece.text]
  obtain ⟨rest, hrest⟩ := hheader
  have hlines : (Text.split (· == '\n') (s.moduleText a).toList).takeWhile (· ≠ []) =
      (Text.lines (moduleHeader s).toList).map commentChars := by
    rw [hrest]
    exact takeWhile_split_headerBlock _ _
  refine ⟨htext, sources_modulePieces s a, openImpl_mem_modulePieces, ?_, hlines, ?_, ?_⟩
  · intro b hplaced htypes
    have htypes' : typePieces a.types = typePieces b.types := by
      simpa [typePieces, List.flatMap_map] using
        congrArg (fun sources => sources.flatMap fun t => [Piece.gap, .source t]) htypes
    have hpieces : s.modulePieces a = s.modulePieces b := by
      unfold Spec.modulePieces Artifacts.sources
      rw [hplaced .override, hplaced .inherent, htypes']
    rw [htext, moduleText_eq_textOf s b, hpieces]
  · rw [hrest, split_headerBlock]
    exact List.mem_append_right _ List.mem_cons_self
  · rw [hlines]
    exact List.forall_mem_map.mpr fun l _ => prefix_commentChars l

/-- A spec whose path holds line breaks, one of them before a line that looks like code. -/
def brokenPath : Spec :=
  { Spec.ofComponent "Counter" with path := "Counter\n\nfn f() \x7b\x7d\r\nSpec" }

/-- Artifacts in which the component's own functions stand around an override. -/
def mixedArtifacts : Artifacts where
  functions := [⟨"b", .inherent, "    fn b() \x7b\x7d\n"⟩, ⟨"a", .override, "    fn a() \x7b\x7d\n"⟩,
    ⟨"c", .inherent, "    fn c() \x7b\x7d\n"⟩]
  types := [⟨"D", "struct D;\n"⟩]

/-- The same artifacts, with the override first. -/
def sortedArtifacts : Artifacts where
  functions := [⟨"a", .override, "    fn a() \x7b\x7d\n"⟩, ⟨"b", .inherent, "    fn b() \x7b\x7d\n"⟩,
    ⟨"c", .inherent, "    fn c() \x7b\x7d\n"⟩]
  types := [⟨"D", "struct D;\n"⟩]

/-- Both give the same module, and the broken path stays in the comment. -/
theorem assembled_mixedArtifacts :
    mixedArtifacts ≠ sortedArtifacts ∧
    brokenPath.moduleText mixedArtifacts = brokenPath.moduleText sortedArtifacts ∧
    ((Text.split (· == '\n') (brokenPath.moduleText mixedArtifacts).toList).takeWhile (· ≠ [])).map
      String.ofList = ["// @generated by stately-codegen from `Counter", "//", "// fn f() \x7b\x7d",
        "// Spec`.", "//", "// Do not edit: regenerate from the spec model instead."] := by
  obtain ⟨-, -, -, hsame, hlines, -⟩ := moduleText_assembled brokenPath mixedArtifacts
  have hplaced : ∀ p, (mixedArtifacts.placed p).map (·.source) =
      (sortedArtifacts.placed p).map (·.source) := by
    intro p
    cases p <;> decide
  refine ⟨by decide, hsame sortedArtifacts hplaced (by decide), ?_⟩
  rw [hlines]
  decide +kernel

end Carryover
