/-
# The layout of a state module

The text of a module is the text of lines too: a buffer that holds laid lines
(`Buffer.Holds`) goes on doing so when a line, an implementation or a laid out source is appended.
So the module of a sound spec is well bracketed, and every line of it stands four spaces in for each
bracket that is open there.

`layout_moduleText` says this for all kinds of brackets at once and for each kind alone.  It asks of
the types, bounds and handles of the spec what it says of the module: that their brackets match, in
the same sense.  Whatever they hold, `opened` is the list of brackets that the synthesised lines
have open.
-/
import Carryover.Artifact.StateModule
import Carryover.Proofs.Artifact.Layout
import Carryover.Proofs.Artifact.Names

namespace Carryover

open Source

variable {Fair : (Bracket → Bool) → Prop} {s : Spec}

/-! ## 1. Header comments -/

/-- The lines of a text are made of its characters, without the breaks. -/
theorem Text.mem_of_mem_lines {cs l : List Char} {c : Char} (hl : l ∈ Text.lines cs) (hc : c ∈ l) :
    c ∈ cs ∧ c ≠ '\n' := by
  have hparts : ∀ parts : List (List Char), l ∈ Text.linesOfParts parts →
      ∃ part ∈ parts, c ∈ part := by
    intro parts h
    induction parts with
    | nil => exact absurd h List.not_mem_nil
    | cons first parts ih =>
      cases parts with
      | nil =>
        unfold Text.linesOfParts at h
        split at h
        · exact absurd h List.not_mem_nil
        · obtain rfl := List.mem_singleton.mp h
          exact ⟨l, List.mem_cons_self, hc⟩
      | cons next parts =>
        rcases List.mem_cons.mp h with rfl | h
        · refine ⟨first, List.mem_cons_self, ?_⟩
          unfold Text.dropReturn at hc
          split at hc
          · exact (List.dropLast_sublist first).subset hc
          · exact hc
        · obtain ⟨part, hpart, hmem⟩ := ih h
          exact ⟨part, List.mem_cons_of_mem first hpart, hmem⟩
  obtain ⟨part, hpart, hmem⟩ := hparts _ hl
  refine ⟨Text.Case.mem_of_mem_split hpart hmem, fun he => ?_⟩
  have hnone : ∀ c ∈ part, (c == '\n') = false := by
    rcases Text.mem_split_cases.mp hpart with hfirst | hother
    · exact (Text.eq_takeWhile_iff.mp hfirst).1
    · exact (Text.mem_tail_split_iff.mp hother).1
  exact absurd he (by simpa using hnone c hmem)

/-! ## 2. Buffers -/

/-- The buffer is at the margin, and holds lines that leave these brackets open. -/
def Source.Buffer.Holds (Fair : (Bracket → Bool) → Prop) (b : Buffer) (opened : List Bracket) :
    Prop :=
  b.level = 0 ∧ ∃ ls, b.text = renderLines 0 ls ∧ Laid Fair 0 [] ls opened

namespace Source.Buffer.Holds

variable {b : Buffer} {opened opened' : List Bracket}

/-- Lines behind the lines of the buffer. -/
theorem raw {source : String} {ls : List Line} (h : b.Holds Fair opened)
    (hsource : source = renderLines 0 ls) (hlaid : Laid Fair 0 opened ls opened') :
    (b.raw source).Holds Fair opened' := by
  obtain ⟨hlevel, above, htext, habove⟩ := h
  refine ⟨hlevel, above ++ ls, ?_, habove.append hlaid⟩
  rw [renderLines_append, ← htext, ← hsource]
  rfl

/-- One line. -/
theorem line {t : String} {closes : Bool} {pattern : List Char} (h : b.Holds Fair opened)
    (ht : Starts Fair closes pattern t) (hleads : leads pattern opened opened' = true)
    (hclosed : closes.toNat = opened.length) : (b.line t).Holds Fair opened' := by
  have hdepth : 0 + 0 + closes.toNat = opened.length := by rw [Nat.zero_add, hclosed]
  have hlaid : Laid Fair 0 opened (Source.line t) opened' := .line ht hleads hdepth .nil
  refine h.raw ?_ hlaid
  rw [h.1, renderLines_line]

/-- An empty line. -/
theorem blank (h : b.Holds Fair opened) : b.blank.Holds Fair opened :=
  h.raw (renderLines_line 0 "").symm (.blank .nil)

/-- Sources with empty lines between them. -/
theorem writeSources {sources : List String} (h : b.Holds Fair opened)
    (hsources : ∀ source ∈ sources, LaidIn Fair opened source) :
    (writeSources sources b).Holds Fair opened := by
  induction sources generalizing b with
  | nil => exact h
  | cons source rest ih =>
    obtain ⟨⟨ls, htext, hlaid⟩, hrest⟩ := List.forall_mem_cons.mp hsources
    have hfirst := h.raw htext hlaid
    cases rest with
    | nil => exact hfirst
    | cons next rest => exact ih hfirst.blank hrest

/-- An implementation. -/
theorem writeImpl {header : String} {pattern : List Char} {sources : List String}
    (h : b.Holds Fair []) (hheader : Starts Fair false pattern header)
    (hleads : leads pattern [] [] = true)
    (hsources : ∀ source ∈ sources, LaidIn Fair [.curly] source) :
    (writeImpl header sources b).Holds Fair [] := by
  unfold Carryover.writeImpl
  split
  · exact h.line (hheader.append .fixed) (leads_append hleads (by decide)) rfl
  · have hopened : (b.line (opening header)).Holds Fair [.curly] :=
      h.line (hheader.append .fixed) (leads_append hleads (by decide)) rfl
    have hbrace : Starts Fair true "\x7d".toList "\x7d" := .fixed (by decide)
    exact (hopened.writeSources hsources).line hbrace (by decide) rfl

/-- A line of a comment. -/
theorem comment {l : List Char} (h : b.Holds Fair [])
    (hplain : ∀ c ∈ l, c ≠ '\n' ∧ opened? c = none ∧ closed? c = none) :
    (b.line (commentLine l)).Holds Fair [] := by
  unfold commentLine
  split
  · have hempty : Starts Fair false "//".toList "//" := .fixed (by decide)
    exact h.line hempty (by decide) rfl
  · have hslashes : Starts Fair false "// ".toList "// " := .fixed (by decide)
    have htext : Inline Fair (String.ofList l) := .of_plain (by rwa [String.toList_ofList])
    exact h.line (hslashes.append htext) (by decide) rfl

/-- A header comment, if no line of it holds a bracket. -/
theorem withHeader {header : String}
    (h : ∀ c ∈ header.toList, opened? c = none ∧ closed? c = none) :
    (Buffer.withHeader header).Holds Fair [] := by
  have hlines : ∀ (ls : List (List Char)) (b : Buffer), b.Holds Fair [] →
      (∀ l ∈ ls, ∀ c ∈ l, c ≠ '\n' ∧ opened? c = none ∧ closed? c = none) →
      (ls.foldl (fun b l => b.line (commentLine l)) b).Holds Fair [] := by
    intro ls
    induction ls with
    | nil => exact fun b hb _ => hb
    | cons l ls ih =>
      intro b hb hplain
      obtain ⟨hl, hls⟩ := List.forall_mem_cons.mp hplain
      exact ih _ (hb.comment hl) hls
  refine (hlines _ _ ⟨rfl, [], rfl, .nil⟩ fun l hl c hc => ?_).blank
  obtain ⟨hmem, hbreak⟩ := Text.mem_of_mem_lines hl hc
  exact ⟨hbreak, h c hmem⟩

end Source.Buffer.Holds

/-! ## 3. The module -/

/-- Whether a text holds brackets can be computed. -/
theorem plain_of_all {cs : List Char}
    (h : cs.all (fun c => (opened? c).isNone && (closed? c).isNone) = true) :
    ∀ c ∈ cs, opened? c = none ∧ closed? c = none := by
  intro c hc
  have hboth := List.all_eq_true.mp h c hc
  rwa [Bool.and_eq_true, Option.isNone_iff_eq_none, Option.isNone_iff_eq_none] at hboth

/-- The header of a module holds no brackets. -/
theorem plain_moduleHeader (h : isPath s.path = true) :
    ∀ c ∈ (moduleHeader s).toList, opened? c = none ∧ closed? c = none := by
  have hpath : ∀ c ∈ s.path.toList, opened? c = none ∧ closed? c = none := by
    intro c hc
    rcases mem_of_isPath h c hc with rfl | hword
    · decide
    · exact (plain_of_isWordChar hword).2.2
  have hbefore : ∀ c ∈ "@generated by stately-codegen from `".toList,
      opened? c = none ∧ closed? c = none :=
    plain_of_all (by decide)
  have hbehind : ∀ c ∈ "`.\n\nDo not edit: regenerate from the spec model instead.".toList,
      opened? c = none ∧ closed? c = none :=
    plain_of_all (by decide)
  unfold moduleHeader
  intro c hc
  rw [String.toList_append, String.toList_append] at hc
  rcases List.mem_append.mp hc with hc | hc
  · exact (List.mem_append.mp hc).elim (hbefore c) (hpath c)
  · exact hbehind c hc

/-- **The module of a component is laid out**, if its artifacts are. -/
theorem Spec.IsInline.holds_moduleText (hs : s.IsInline Fair) {a : Artifacts}
    (ha : a.LaidOut Fair) : ∃ ls, s.moduleText a = renderLines 0 ls ∧ Laid Fair 0 [] ls [] := by
  have hsources : ∀ p, ∀ source ∈ a.sources p, LaidIn Fair [.curly] source := by
    intro p source hsource
    obtain ⟨f, hf, rfl⟩ := List.mem_map.mp hsource
    exact ha.functions f (List.mem_of_mem_filter hf)
  have htypes : ∀ (types : List TypeArtifact) (b : Buffer), b.Holds Fair [] →
      (∀ t ∈ types, LaidIn Fair [] t.source) →
      (types.foldl (fun b t => b.blank.raw t.source) b).Holds Fair [] := by
    intro types
    induction types with
    | nil => exact fun b hb _ => hb
    | cons t types ih =>
      intro b hb hlaid
      obtain ⟨⟨ls, htext, hls⟩, htypes⟩ := List.forall_mem_cons.mp hlaid
      exact ih _ (hb.blank.raw htext hls) htypes
  have hcomponent : Inline Fair s.component := inline_name hs.component
  have hoverrides := (Buffer.Holds.withHeader (plain_moduleHeader hs.path_valid)).writeImpl
    ((Starts.fixed (by decide)).append (hs.handles.fixedItem (by decide)) |>.append .fixed
      |>.append hcomponent : Starts Fair false _
        ("impl " ++ s.handles.item "ComponentState" ++ " for " ++ s.component))
    (by decide) (hsources .override)
  refine (htypes a.types _ ?_ ha.types).2
  split
  · exact hoverrides
  · exact hoverrides.blank.writeImpl ((Starts.fixed (by decide)).append hcomponent) (by decide)
      (hsources .inherent)

/-- **A module is well bracketed and indented by nesting.**  `kinds` are the kinds of brackets that
count: with all of them brackets have to nest, with one of them only their numbers matter.  In
either sense the module is balanced if the free texts of its spec are, and closes nowhere more than
it opened.  Every line that holds anything stands four spaces in for each bracket that is open where
it begins, one level less if it begins with a closing bracket. -/
theorem layout_moduleText {s : Spec} {a : Artifacts} (h : s.synthesize = .ok a)
    (hlines : ∀ t ∈ s.freeTexts, '\n' ∉ t.toList) :
    (∀ kinds, s.FreeTextsBalanced kinds →
      Balanced kinds (s.moduleText a).toList ∧
        ∀ b, kinds b = true → ∀ before, before <+: (s.moduleText a).toList →
          closeCount b before ≤ openCount b before) ∧
    ∀ before line after, StandsIn (s.moduleText a).toList before line after → line ≠ [] →
      ∃ opened, IndentedBy opened line ∧ ∀ kinds, s.FreeTextsBalanced kinds →
        nest kinds before [] = some (opened.filter kinds) := by
  obtain ⟨hwell, rfl⟩ := Spec.synthesize_eq_ok_iff.mp h
  have hinline := Spec.isInline hwell hlines
  obtain ⟨ls, htext, hlaid⟩ := hinline.holds_moduleText hinline.laidOut
  rw [htext]
  constructor
  · intro kinds hkinds
    have hbalanced : Balanced kinds (renderLines 0 ls).toList := hlaid.nest_eq hkinds
    exact ⟨hbalanced, fun b hb => (hbalanced.count_le hb).2⟩
  · intro before line after hline hne
    exact hlaid.indented hline hne

/-- A sound spec whose free texts hold brackets. -/
def pairHolder : Spec :=
  { Spec.ofComponent "Pairs" with
    fields := [⟨"pairs", "Vec<(u8, [u8; 4])>", true⟩]
    methods := [⟨"push", [⟨"T", "Fn(u8) -> [u8; 4]"⟩],
      [⟨.slot, "pairs", "Vec<(u8, [u8; 4])>"⟩, ⟨.captured, "make", "(u8, T)"⟩]⟩] }

/-- Its module is balanced in brackets of all kinds. -/
theorem balanced_pairHolder :
    pairHolder.synthesize = .ok pairHolder.artifacts ∧
      (∀ t ∈ pairHolder.freeTexts, '\n' ∉ t.toList) ∧
      pairHolder.FreeTextsBalanced allKinds ∧
      Balanced allKinds (pairHolder.moduleText pairHolder.artifacts).toList := by
  have hsound : pairHolder.defects = [] := by decide
  have hsynthesize : pairHolder.synthesize = .ok pairHolder.artifacts :=
    Spec.synthesize_eq_ok_iff.mpr ⟨defects_eq_nil_iff.mp hsound, rfl⟩
  have hlines : ∀ t ∈ pairHolder.freeTexts, '\n' ∉ t.toList := by decide
  have hfree : ∀ t ∈ pairHolder.freeTexts, Balanced allKinds t.toList := by decide
  exact ⟨hsynthesize, hlines, hfree, ((layout_moduleText hsynthesize hlines).1 allKinds hfree).1⟩

end Carryover
