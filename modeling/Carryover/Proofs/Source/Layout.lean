/-
# The layout of lines

A piece of source is well laid if every line stands as far in as brackets are open where it begins,
one level less if it begins with a closing bracket, and if it closes all that it opened.

A line is put together from fixed texts and others.  Of the others nothing is known but that they
stand on one line and that their brackets match (`Inline`), so the line does to the open brackets
what its pattern does, the fixed texts alone (`Fills`); and what a pattern does can be computed
(`leads`).  Whether the brackets of a text match can depend on the kinds that count.  So all is said
of any set of kinds that is `Fair`, and the open brackets of all kinds tell which of them count.

`Laid` leads the open brackets through a list of lines.  From it come the two things that are said
of the text of the lines: what stays open (`Laid.nest_eq`), and how far in each line stands
(`Laid.indented`).
-/
import Carryover.Proofs.Source.Bracket
import Carryover.Proofs.Source.Rendered
import Carryover.Source.Vocabulary

namespace Carryover.Source

variable {Fair : (Bracket → Bool) → Prop} {k k' pattern : List Char} {t u : String}
  {opened mid opened' base : List Bracket} {closes : Bool}

/-! ## 1. Patterns -/

/-- The text is the pattern with more in it, which does nothing to the open brackets. -/
structure Fills (Fair : (Bracket → Bool) → Prop) (pattern : List Char) (t : String) : Prop where
  no_break : '\n' ∉ pattern → '\n' ∉ t.toList
  nest_eq : ∀ kinds, Fair kinds → ∀ opened,
    nest kinds t.toList opened = nest kinds pattern opened

/-- The text can stand anywhere in a line. -/
def Inline (Fair : (Bracket → Bool) → Prop) (t : String) : Prop :=
  Fills Fair [] t

/-- A fixed text is its own pattern. -/
theorem Fills.fixed : Fills Fair t.toList t :=
  ⟨id, fun _ _ _ => rfl⟩

/-- One text behind the other. -/
theorem Fills.append (ht : Fills Fair k t) (hu : Fills Fair k' u) :
    Fills Fair (k ++ k') (t ++ u) := by
  refine ⟨fun hbreak => ?_, fun kinds hkinds opened => ?_⟩
  · rw [List.mem_append, not_or] at hbreak
    rw [String.toList_append, List.mem_append, not_or]
    exact ⟨ht.no_break hbreak.1, hu.no_break hbreak.2⟩
  · rw [String.toList_append, nest_append, nest_append, ht.nest_eq kinds hkinds]
    congr 1
    funext mid
    exact hu.nest_eq kinds hkinds mid

/-- Does a pattern lead from some open brackets to others, on one line? -/
def leads (pattern : List Char) (opened opened' : List Bracket) : Bool :=
  !pattern.contains '\n' && nest allKinds pattern opened = some opened'

theorem leads_iff : leads pattern opened opened' = true ↔
    '\n' ∉ pattern ∧ nest allKinds pattern opened = some opened' := by
  simp [leads]

/-- What a pattern does on its own it does inside of other brackets. -/
theorem leads_append_base (h : leads pattern opened opened' = true) :
    leads pattern (opened ++ base) (opened' ++ base) = true := by
  obtain ⟨hbreak, hnest⟩ := leads_iff.mp h
  exact leads_iff.mpr ⟨hbreak, nest_append_base hnest⟩

/-- One pattern behind the other. -/
theorem leads_append (h : leads k opened mid = true) (h' : leads k' mid opened' = true) :
    leads (k ++ k') opened opened' = true := by
  rw [leads_iff] at h h' ⊢
  rw [List.mem_append, not_or, nest_append, h.2]
  exact ⟨⟨h.1, h'.1⟩, h'.2⟩

/-- A text can stand anywhere in a line if its pattern has no open ends. -/
theorem Fills.inline (h : Fills Fair pattern t) (hpattern : leads pattern [] [] = true) :
    Inline Fair t := by
  obtain ⟨hbreak, hnest⟩ := leads_iff.mp hpattern
  refine ⟨fun _ => h.no_break hbreak, fun kinds hkinds opened => ?_⟩
  rw [h.nest_eq kinds hkinds]
  exact nest_append_base (nest_filter hnest)

/-- A text without brackets and breaks can stand anywhere in a line. -/
theorem Inline.of_plain
    (h : ∀ c ∈ t.toList, c ≠ '\n' ∧ opened? c = none ∧ closed? c = none) : Inline Fair t :=
  ⟨fun _ hmem => (h _ hmem).1 rfl, fun _ _ _ => nest_of_plain fun c hc => (h c hc).2⟩

/-- A text can stand anywhere in a line if its brackets match. -/
theorem Inline.of_balanced (hbreak : '\n' ∉ t.toList)
    (h : ∀ kinds, Fair kinds → Balanced kinds t.toList) : Inline Fair t :=
  ⟨fun _ => hbreak, fun kinds hkinds _ => (h kinds hkinds).nest_eq⟩

/-- Texts with the same text between neighbours. -/
theorem Inline.intercalate {parts : List String} (ht : Inline Fair t)
    (h : ∀ u ∈ parts, Inline Fair u) : Inline Fair (t.intercalate parts) := by
  induction parts with
  | nil =>
    rw [String.intercalate_nil]
    exact Fills.fixed.inline (by decide)
  | cons u parts ih =>
    obtain ⟨hu, hparts⟩ := List.forall_mem_cons.mp h
    by_cases hnil : parts = []
    · subst hnil
      rwa [String.intercalate_singleton]
    · rw [String.intercalate_cons_of_ne_nil hnil]
      exact (hu.append ht).append (ih hparts)

/-! ## 2. The beginning of a line -/

/-- Do the characters begin, not with a space, and with a closing bracket just if `closes`? -/
def begins (closes : Bool) (cs : List Char) : Bool :=
  cs.head?.any fun c => c != ' ' && (closed? c).isSome == closes

/-- The text is the pattern with more in it, and can begin a line. -/
structure Starts (Fair : (Bracket → Bool) → Prop) (closes : Bool) (pattern : List Char)
    (t : String) : Prop extends Fills Fair pattern t where
  begins_eq : begins closes t.toList = true

/-- How a fixed text begins can be computed. -/
theorem Starts.fixed (h : begins closes t.toList = true) : Starts Fair closes t.toList t :=
  ⟨.fixed, h⟩

/-- A line begins with its first text. -/
theorem Starts.append (ht : Starts Fair closes k t) (hu : Fills Fair k' u) :
    Starts Fair closes (k ++ k') (t ++ u) := by
  refine ⟨ht.toFills.append hu, ?_⟩
  have hbegins := ht.begins_eq
  unfold begins at hbegins ⊢
  rw [String.toList_append, List.head?_append]
  cases hhead : t.toList.head? with
  | none =>
    rw [hhead] at hbegins
    exact absurd hbegins nofun
  | some c => rwa [hhead] at hbegins

/-- A text can begin a line anywhere if its pattern has no open ends. -/
theorem Starts.inline (h : Starts Fair closes pattern t) (hpattern : leads pattern [] [] = true) :
    Starts Fair closes [] t :=
  ⟨h.toFills.inline hpattern, h.begins_eq⟩

/-- The character with which a line begins. -/
theorem Starts.exists_cons (h : Starts Fair closes pattern t) :
    ∃ c cs, t.toList = c :: cs ∧ c ≠ ' ' ∧ (closed? c).isSome = closes := by
  have hbegins := h.begins_eq
  unfold begins at hbegins
  cases htext : t.toList with
  | nil =>
    rw [htext] at hbegins
    exact absurd hbegins nofun
  | cons c cs =>
    rw [htext] at hbegins
    exact ⟨c, cs, rfl, by simpa using hbegins⟩

/-! ## 3. Lines -/

/-- The lines, which stand at a level and deeper, lead from some open brackets to others, and each
of them stands where it should. -/
inductive Laid (Fair : (Bracket → Bool) → Prop) :
    Nat → List Bracket → List Line → List Bracket → Prop where
  | nil {level : Nat} {opened : List Bracket} : Laid Fair level opened [] opened
  | blank {level depth : Nat} {opened opened' : List Bracket} {ls : List Line}
      (rest : Laid Fair level opened ls opened') :
      Laid Fair level opened (⟨depth, ""⟩ :: ls) opened'
  | line {level : Nat} {opened mid opened' : List Bracket} {l : Line} {ls : List Line}
      {closes : Bool} {pattern : List Char} (starts : Starts Fair closes pattern l.text)
      (leads_eq : leads pattern opened mid = true)
      (depth_eq : level + l.depth + closes.toNat = opened.length)
      (rest : Laid Fair level mid ls opened') :
      Laid Fair level opened (l :: ls) opened'

namespace Laid

variable {level : Nat} {ls ls' : List Line}

theorem append (h : Laid Fair level opened ls mid) (h' : Laid Fair level mid ls' opened') :
    Laid Fair level opened (ls ++ ls') opened' := by
  induction h with
  | nil => exact h'
  | blank _ ih => exact blank (ih h')
  | line hstarts hleads hdepth _ ih => exact line hstarts hleads hdepth (ih h')

/-- Lines one level further in. -/
theorem indent (h : Laid Fair (level + 1) opened ls opened') :
    Laid Fair level opened (indent ls) opened' := by
  induction h with
  | nil => exact nil
  | blank _ ih => exact blank ih
  | line hstarts hleads hdepth _ ih => exact line hstarts hleads (by simp only; omega) ih

/-- One line, whose pattern closes and opens brackets inside of others. -/
theorem single (opened opened' base : List Bracket) (h : Starts Fair closes pattern t)
    (hleads : leads pattern opened opened' = true)
    (hlevel : level + closes.toNat = (opened ++ base).length) :
    Laid Fair level (opened ++ base) (Source.line t) (opened' ++ base) :=
  line h (leads_append_base hleads) hlevel nil

end Laid

/-- The lines close all that they open, wherever they stand. -/
def WellLaid (Fair : (Bracket → Bool) → Prop) (ls : List Line) : Prop :=
  ∀ opened, Laid Fair opened.length opened ls opened

namespace WellLaid

variable {ls ls' body inner : List Line} {first header closing : String}

theorem nil : WellLaid Fair [] :=
  fun _ => .nil

theorem blank : WellLaid Fair blank :=
  fun _ => .blank .nil

theorem append (h : WellLaid Fair ls) (h' : WellLaid Fair ls') : WellLaid Fair (ls ++ ls') :=
  fun opened => (h opened).append (h' opened)

theorem flatMap {α : Type} {xs : List α} {f : α → List Line}
    (h : ∀ x ∈ xs, WellLaid Fair (f x)) : WellLaid Fair (xs.flatMap f) := by
  induction xs with
  | nil => exact nil
  | cons x xs ih =>
    obtain ⟨hx, hxs⟩ := List.forall_mem_cons.mp h
    rw [List.flatMap_cons]
    exact hx.append (ih hxs)

/-- One line. -/
theorem single (h : Starts Fair false pattern t) (hleads : leads pattern [] [] = true) :
    WellLaid Fair (line t) :=
  fun opened => .single [] [] opened h hleads rfl

/-- A fixed line. -/
theorem fixed (hleads : leads t.toList [] [] = true) (hbegins : begins false t.toList = true) :
    WellLaid Fair (line t) :=
  single (.fixed hbegins) hleads

/-- A line of documentation. -/
theorem doc (h : Inline Fair t) : WellLaid Fair (doc t) := by
  have hslashes : Starts Fair false "/// ".toList "/// " := .fixed (by decide)
  unfold Source.doc docText
  split
  · exact fixed (by decide) (by decide)
  · exact single (hslashes.append h) (by decide)

/-- Lines between a header and a closing text. -/
theorem blockUntil (hheader : Starts Fair false pattern header)
    (hleads : leads pattern [] [] = true) (hbody : WellLaid Fair body)
    (hcloses : leads closing.toList [.curly] [] = true)
    (hbegins : begins true closing.toList = true) :
    WellLaid Fair (blockUntil closing header body) := by
  intro opened
  have hopening : Laid Fair opened.length opened (line (opening header)) (.curly :: opened) :=
    .single [] [.curly] opened (hheader.append .fixed) (leads_append hleads (by decide)) rfl
  exact (hopening.append (hbody (.curly :: opened)).indent).append
    (.single [.curly] [] opened (.fixed hbegins) hcloses rfl)

/-- Lines between a header and a closing brace. -/
theorem block (hheader : Starts Fair false pattern header) (hleads : leads pattern [] [] = true)
    (hbody : WellLaid Fair body) : WellLaid Fair (block header body) :=
  blockUntil hheader hleads hbody (by decide) (by decide)

/-- Lines between a first line, which opens a bracket, and a fixed last line, which closes it. -/
theorem enclosed (hfirst : Starts Fair false pattern first)
    (hleads : leads pattern [] [.round] = true) (hinner : WellLaid Fair inner) :
    WellLaid Fair (line first ++ Source.indent inner ++ line ");") := by
  intro opened
  have hopening : Laid Fair opened.length opened (line first) (.round :: opened) :=
    .single [] [.round] opened hfirst hleads rfl
  have hparen : Starts Fair true ");".toList ");" := .fixed (by decide)
  exact (hopening.append (hinner (.round :: opened)).indent).append
    (.single [.round] [] opened hparen (by decide) rfl)

/-- A function whose parameters stand on lines of their own. -/
theorem signature (hfirst : Starts Fair false pattern first)
    (hfirst' : leads pattern [] [.round] = true) (hinner : WellLaid Fair inner)
    (hheader : Starts Fair true k header) (hheader' : leads k [.round] [] = true)
    (hbody : WellLaid Fair body) :
    WellLaid Fair (line first ++ Source.indent inner ++ Source.block header body) := by
  intro opened
  have hopening : Laid Fair opened.length opened (line first) (.round :: opened) :=
    .single [] [.round] opened hfirst hfirst' rfl
  have hmiddle : Laid Fair opened.length (.round :: opened) (line (Source.opening header))
      (.curly :: opened) :=
    .single [.round] [.curly] opened (hheader.append .fixed) (leads_append hheader' (by decide)) rfl
  have hbrace : Starts Fair true "\x7d".toList "\x7d" := .fixed (by decide)
  have hclosing : Laid Fair opened.length (.curly :: opened) (line "\x7d") opened :=
    .single [.curly] [] opened hbrace (by decide) rfl
  exact (hopening.append (hinner (.round :: opened)).indent).append
    ((hmiddle.append (hbody (.curly :: opened)).indent).append hclosing)

end WellLaid

/-! ## 4. The text of the lines -/

/-- The line stands in the text between `before` and `after`. -/
structure StandsIn (text before line after : List Char) : Prop where
  text_eq : text = before ++ (line ++ after)
  no_break : '\n' ∉ line
  begins : ∀ c ∈ before.getLast?, c = '\n'
  ends : ∀ c ∈ after.head?, c = '\n'

/-- The line stands four spaces in for each open bracket, one level less if it begins with a closing
bracket. -/
def IndentedBy (opened : List Bracket) (line : List Char) : Prop :=
  ∃ level c rest, line = List.replicate (4 * level) ' ' ++ c :: rest ∧ c ≠ ' ' ∧
    level + (closed? c).isSome.toNat = opened.length

/-- The first break of a text is in one place. -/
theorem eq_of_first_break {first first' rest rest' : List Char} (h : '\n' ∉ first)
    (h' : '\n' ∉ first') (heq : first ++ '\n' :: rest = first' ++ '\n' :: rest') :
    first = first' ∧ rest = rest' := by
  rcases List.append_eq_append_iff.mp heq with ⟨cs, rfl, hcs⟩ | ⟨cs, rfl, hcs⟩
  · cases cs with
    | nil => exact ⟨(List.append_nil first).symm, (List.cons.inj hcs).2⟩
    | cons c cs =>
      obtain rfl := (List.cons.inj hcs).1
      exact absurd (List.mem_append_right first List.mem_cons_self) h'
  · cases cs with
    | nil => exact ⟨List.append_nil first', (List.cons.inj hcs).2.symm⟩
    | cons c cs =>
      obtain rfl := (List.cons.inj hcs).1
      exact absurd (List.mem_append_right first' List.mem_cons_self) h

/-- A line of a text is its first line, or a line of the rest. -/
theorem StandsIn.cases {first rest before line after : List Char} (hfirst : '\n' ∉ first)
    (h : StandsIn (first ++ '\n' :: rest) before line after) :
    (before = [] ∧ line = first) ∨
      ∃ before', before = first ++ '\n' :: before' ∧ StandsIn rest before' line after := by
  have htext := h.text_eq
  by_cases hmem : '\n' ∈ before
  · obtain ⟨above, below, rfl, habove⟩ := List.eq_append_cons_of_mem hmem
    rw [List.append_assoc, List.cons_append] at htext
    obtain ⟨rfl, hrest⟩ := eq_of_first_break hfirst habove htext
    refine .inr ⟨below, rfl, hrest, h.no_break, fun c hc => h.begins c ?_, h.ends⟩
    rw [List.getLast?_append, List.getLast?_cons, Option.mem_def.mp hc]
    rfl
  · have hbefore : before = [] := by
      by_contra hne
      have hlast := h.begins _ (List.getLast?_eq_some_getLast hne)
      exact hmem (hlast ▸ List.getLast_mem hne)
    subst hbefore
    refine .inl ⟨rfl, ?_⟩
    rw [List.nil_append] at htext
    cases hafter : after with
    | nil =>
      rw [hafter, List.append_nil] at htext
      exact absurd (htext ▸ List.mem_append_right first List.mem_cons_self) h.no_break
    | cons c cs =>
      obtain rfl : c = '\n' := h.ends c (by rw [hafter]; rfl)
      rw [hafter] at htext
      exact (eq_of_first_break hfirst h.no_break htext).1.symm

/-- The margin of a line holds no brackets. -/
theorem Starts.nest_shown {kinds : Bracket → Bool} (h : Starts Fair closes pattern t)
    (hleads : leads pattern opened opened' = true) (hkinds : Fair kinds) (depth : Nat) :
    nest kinds (shown depth t) (opened.filter kinds) = some (opened'.filter kinds) := by
  obtain ⟨c, cs, htext, -⟩ := h.exists_cons
  have hne : t ≠ "" := fun he => absurd (he ▸ htext) nofun
  unfold shown
  rw [if_neg hne, nest_append, nest_of_plain]
  · rw [Option.bind_some, h.nest_eq kinds hkinds]
    exact nest_filter (leads_iff.mp hleads).2
  · intro d hd
    rw [List.eq_of_mem_replicate hd]
    exact ⟨rfl, rfl⟩

namespace Laid

variable {level : Nat} {ls : List Line} {kinds : Bracket → Bool}

/-- **What is open behind the lines.** -/
theorem nest_eq (h : Laid Fair level opened ls opened') (hkinds : Fair kinds) :
    nest kinds (renderLines level ls).toList (opened.filter kinds)
      = some (opened'.filter kinds) := by
  induction h with
  | nil => rfl
  | blank _ ih =>
    rw [toList_renderLines_cons]
    exact ih
  | line hstarts hleads _ _ ih =>
    rw [toList_renderLines_cons, nest_append, hstarts.nest_shown hleads hkinds]
    exact ih

/-- **How far in the lines stand.** -/
theorem indented (h : Laid Fair level opened ls opened') {before line after : List Char}
    (hline : StandsIn (renderLines level ls).toList before line after) (hne : line ≠ []) :
    ∃ here, IndentedBy here line ∧ ∀ kinds, Fair kinds →
      nest kinds before (opened.filter kinds) = some (here.filter kinds) := by
  induction h generalizing before with
  | nil =>
    have hnil := hline.text_eq
    exact absurd (List.append_eq_nil_iff.mp (List.append_eq_nil_iff.mp hnil.symm).2).1 hne
  | blank _ ih =>
    rw [toList_renderLines_cons] at hline
    rcases hline.cases List.not_mem_nil with ⟨-, rfl⟩ | ⟨before', rfl, hrest⟩
    · exact absurd rfl hne
    · obtain ⟨here, hindent, hhere⟩ := ih hrest
      exact ⟨here, hindent, hhere⟩
  | @line opened mid opened' l ls closes pattern hstarts hleads hdepth _ ih =>
    rw [toList_renderLines_cons] at hline
    have hbreak : '\n' ∉ l.text.toList := hstarts.no_break (leads_iff.mp hleads).1
    rcases hline.cases (not_mem_shown hbreak) with ⟨rfl, rfl⟩ | ⟨before', rfl, hrest⟩
    · refine ⟨opened, ?_, fun _ _ => rfl⟩
      obtain ⟨c, cs, htext, hc, hcloses⟩ := hstarts.exists_cons
      have hnonempty : l.text ≠ "" := fun he => absurd (he ▸ htext) nofun
      refine ⟨level + l.depth, c, cs, ?_, hc, by rw [hcloses, hdepth]⟩
      unfold shown
      rw [if_neg hnonempty, htext]
    · obtain ⟨here, hindent, hhere⟩ := ih hrest
      refine ⟨here, hindent, fun kinds hkinds => ?_⟩
      rw [nest_append, hstarts.nest_shown hleads hkinds]
      exact hhere kinds hkinds

end Laid

end Carryover.Source
