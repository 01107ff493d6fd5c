/-
# Texts of a spec as pieces of lines

Synthesised lines are put together from fixed words and texts of the spec.  A spec has texts that
may hold brackets themselves: types, bounds and handles (`Spec.freeTexts`).  They count as single
pieces, of which is asked that they stand on one line and that their brackets match
(`Spec.FreeTextsBalanced`).  All other texts of a sound spec are names or a path, and hold no
brackets.

`Spec.IsInline` has the declarations of a spec as such pieces, and `Spec.isInline` says that a sound
spec is one whose declarations are.  Bindings, lists and type parameters are then pieces too.
-/
import Carryover.Model.Generated
import Carryover.Proofs.Model.Name
import Carryover.Proofs.Model.WellFormed
import Carryover.Proofs.Source.Layout
import Carryover.Proofs.Text.Case

namespace Carryover

open Source

variable {Fair : (Bracket → Bool) → Prop} {s : Spec}

/-! ## 1. Texts of a spec -/

/-- The texts of a spec that need not be names. -/
def Spec.freeTexts (s : Spec) : List String :=
  s.fields.map (·.type) ++
  s.methods.flatMap (fun m => m.params.map (·.type) ++ m.typeParams.map (·.bounds)) ++
  [s.handles.context, s.handles.component, s.handles.container, s.handles.update,
    s.handles.runtime]

/-- The brackets of these kinds match in every free text. -/
def Spec.FreeTextsBalanced (s : Spec) (kinds : Bracket → Bool) : Prop :=
  ∀ t ∈ s.freeTexts, Balanced kinds t.toList

/-- A character of a word is no space, no break and no bracket. -/
theorem plain_of_isWordChar {c : Char} (h : Text.isWordChar c = true) :
    c ≠ ' ' ∧ c ≠ '\n' ∧ opened? c = none ∧ closed? c = none :=
  Text.forall_isWordChar
    (P := fun c => c ≠ ' ' ∧ c ≠ '\n' ∧ opened? c = none ∧ closed? c = none) (by decide) h

/-- A line can begin with a text without spaces, breaks and brackets. -/
theorem starts_of_plain {t : String}
    (h : ∀ c ∈ t.toList, c ≠ ' ' ∧ c ≠ '\n' ∧ opened? c = none ∧ closed? c = none)
    (hne : t.toList ≠ []) : Starts Fair false [] t := by
  refine ⟨Inline.of_plain fun c hc => (h c hc).2, ?_⟩
  obtain ⟨c, cs, htext⟩ := List.exists_cons_of_ne_nil hne
  obtain ⟨hspace, -, -, hclosed⟩ := h c (htext ▸ List.mem_cons_self)
  unfold begins
  rw [htext, List.head?_cons]
  simp [hspace, hclosed]

/-- A word is a piece of a line. -/
theorem inline_of_isWordChar {t : String} (h : ∀ c ∈ t.toList, Text.isWordChar c = true) :
    Inline Fair t :=
  .of_plain fun c hc => (plain_of_isWordChar (h c hc)).2

/-- A name is a piece of a line. -/
theorem inline_name {name : String} (h : isIdentifier name = true) : Inline Fair name :=
  inline_of_isWordChar (isWordChar_of_isIdentifier h)

/-- A line can begin with a name. -/
theorem starts_name {name : String} (h : isIdentifier name = true) :
    Starts Fair false [] name := by
  refine starts_of_plain (fun c hc => plain_of_isWordChar (isWordChar_of_isIdentifier h c hc))
    fun hnil => ?_
  unfold isIdentifier at h
  rw [hnil] at h
  exact absurd h nofun

/-- A line can begin with a path. -/
theorem starts_path {path : String} (h : isPath path = true) : Starts Fair false [] path := by
  refine starts_of_plain (fun c hc => ?_) fun hnil => ?_
  · rcases mem_of_isPath h c hc with rfl | hword
    · decide
    · exact plain_of_isWordChar hword
  · have hempty : path = "" := by rwa [String.toList_eq_nil_iff] at hnil
    exact absurd h (by rw [hempty]; decide)

/-- White space is no bracket. -/
theorem plain_of_isBlank {c : Char} (h : Text.isBlank c = true) :
    opened? c = none ∧ closed? c = none := by
  constructor
  · unfold opened?
    split
    all_goals first | rfl | exact absurd h (by decide)
  · unfold closed?
    split
    all_goals first | rfl | exact absurd h (by decide)

/-- Trimming takes white space off both ends. -/
theorem exists_trim (cs : List Char) : ∃ before after, cs = before ++ (Text.trim cs ++ after) ∧
    (∀ c ∈ before, Text.isBlank c = true) ∧ ∀ c ∈ after, Text.isBlank c = true := by
  have hfront : cs = cs.takeWhile Text.isBlank ++ cs.dropWhile Text.isBlank :=
    List.takeWhile_append_dropWhile.symm
  have hback : ∀ ds : List Char,
      ds = Text.trimEnd ds ++ (ds.reverse.takeWhile Text.isBlank).reverse := by
    intro ds
    unfold Text.trimEnd
    rw [← List.reverse_append, List.takeWhile_append_dropWhile, List.reverse_reverse]
  refine ⟨_, _, hfront.trans (congrArg _ (hback _)), List.all_eq_true.mp List.all_takeWhile, ?_⟩
  exact fun c hc => List.all_eq_true.mp List.all_takeWhile c (List.mem_reverse.mp hc)

/-- A text without the white space at its ends is a piece of a line if the text is. -/
theorem inline_trim {t : String} (h : Inline Fair t) :
    Inline Fair (String.ofList (Text.trim t.toList)) := by
  obtain ⟨before, after, htext, hbefore, hafter⟩ := exists_trim t.toList
  refine ⟨fun _ => ?_, fun kinds hkinds opened => ?_⟩
  · have hbreak := h.no_break List.not_mem_nil
    rw [htext] at hbreak
    rw [String.toList_ofList]
    exact fun hmem => hbreak (List.mem_append_right _ (List.mem_append_left _ hmem))
  · have hwhole := h.nest_eq kinds hkinds opened
    rw [htext, nest_append, nest_of_plain fun c hc => plain_of_isBlank (hbefore c hc),
      Option.bind_some, nest_append, nest_nil] at hwhole
    obtain ⟨mid, hmid, hend⟩ := Option.bind_eq_some_iff.mp hwhole
    rw [nest_of_plain fun c hc => plain_of_isBlank (hafter c hc)] at hend
    rw [String.toList_ofList, hmid, hend, nest_nil]

/-! ## 2. Words of the vocabulary -/

theorem inline_resultType : Inline Fair resultType :=
  Fills.fixed.inline (by decide)

theorem starts_someValue : Starts Fair false [] someValue :=
  (Starts.fixed (by decide)).inline (by decide)

theorem inline_optionType : Inline Fair optionType :=
  Fills.fixed.inline (by decide)

theorem starts_boxType : Starts Fair false [] boxType :=
  (Starts.fixed (by decide)).inline (by decide)

theorem inline_sharedType : Inline Fair sharedType :=
  Fills.fixed.inline (by decide)

theorem inline_cloneFunction : Inline Fair cloneFunction :=
  Fills.fixed.inline (by decide)

/-- The handles of a spec are pieces of a line. -/
structure Handles.AreInline (Fair : (Bracket → Bool) → Prop) (h : Handles) : Prop where
  context : Inline Fair h.context
  component : Inline Fair h.component
  container : Inline Fair h.container
  update : Inline Fair h.update
  runtime : Inline Fair h.runtime

namespace Handles.AreInline

variable {h : Handles} {name type : String}

theorem item (hh : h.AreInline Fair) (hname : Inline Fair name) : Inline Fair (h.item name) :=
  (hh.runtime.append .fixed |>.append hname).inline (by decide)

/-- An item with a fixed name. -/
theorem fixedItem (hh : h.AreInline Fair) (hname : leads name.toList [] [] = true) :
    Inline Fair (h.item name) :=
  hh.item (Fills.fixed.inline hname)

theorem boxOf (hh : h.AreInline Fair) (htype : Inline Fair type) : Inline Fair (h.boxOf type) :=
  ((hh.fixedItem (by decide)).append .fixed |>.append htype |>.append .fixed).inline (by decide)

theorem outcome (hh : h.AreInline Fair) : Inline Fair h.outcome :=
  (inline_resultType.append .fixed |>.append (hh.fixedItem (by decide)) |>.append .fixed).inline
    (by decide)

theorem downcastContainer (hh : h.AreInline Fair) (htype : Inline Fair type) :
    Inline Fair (h.downcastContainer type) :=
  ((hh.fixedItem (by decide)).append .fixed |>.append htype |>.append .fixed).inline (by decide)

theorem downcastComponent (hh : h.AreInline Fair) (htype : Inline Fair type) :
    Inline Fair (h.downcastComponent type) :=
  ((hh.fixedItem (by decide)).append .fixed |>.append htype |>.append .fixed).inline (by decide)

theorem downcastComponentMut (hh : h.AreInline Fair) (htype : Inline Fair type) :
    Inline Fair (h.downcastComponentMut type) :=
  ((hh.fixedItem (by decide)).append .fixed |>.append htype |>.append .fixed).inline (by decide)

end Handles.AreInline

/-! ## 3. Bindings and type parameters -/

/-- Parts of a list are one piece. -/
theorem inline_commaList {parts : List String} (h : ∀ t ∈ parts, Inline Fair t) :
    Inline Fair (commaList parts) :=
  .intercalate (Fills.fixed.inline (by decide)) h

/-- A binding is a piece of a line. -/
theorem inline_binding {b : Binding} (hname : isIdentifier b.name = true)
    (htype : Inline Fair b.type) : Inline Fair b.text :=
  ((inline_name hname).append .fixed |>.append htype).inline (by decide)

/-- A list between angle brackets is a piece of a line. -/
theorem inline_angled {parts : List String} (h : ∀ t ∈ parts, Inline Fair t) :
    Inline Fair (angled parts) := by
  unfold angled
  split
  · exact Fills.fixed.inline (by decide)
  · exact (Fills.fixed.append (inline_commaList h) |>.append .fixed).inline (by decide)

/-- A type parameter is a piece of a line, with its bounds and without. -/
theorem inline_typeParamText {p : TypeParam} (hname : isIdentifier p.name = true)
    (hbounds : Inline Fair p.bounds) : Inline Fair (typeParamText p) := by
  have htrimmed : Inline Fair (if (String.ofList (Text.trim p.bounds.toList)).isEmpty then ""
      else String.ofList (Text.trim p.bounds.toList) ++ " + ") := by
    split
    · exact Fills.fixed.inline (by decide)
    · exact ((inline_trim hbounds).append .fixed).inline (by decide)
  exact ((inline_name hname).append .fixed |>.append htrimmed |>.append .fixed
    |>.append .fixed).inline (by decide)

/-- The name of a command is a word. -/
theorem isWordChar_commandTypeName {method : String} (h : isIdentifier method = true) :
    ∀ c ∈ (commandTypeName method).toList, Text.isWordChar c = true := by
  unfold commandTypeName
  rw [String.toList_append, String.toList_ofList]
  intro c hc
  rcases List.mem_append.mp hc with hc | hc
  · exact Text.Case.isWordChar_toPascal (isWordChar_of_isIdentifier h) c hc
  · exact List.all_eq_true.mp (show "StateUpdate".toList.all Text.isWordChar by decide) c hc

/-- The declarations of a method are pieces of a line. -/
structure Method.IsInline (Fair : (Bracket → Bool) → Prop) (m : Method) : Prop where
  name : isIdentifier m.name = true
  param_name : ∀ p ∈ m.params, isIdentifier p.name = true
  param_type : ∀ p ∈ m.params, Inline Fair p.type
  typeParam_name : ∀ p ∈ m.typeParams, isIdentifier p.name = true
  typeParam_bounds : ∀ p ∈ m.typeParams, Inline Fair p.bounds

/-- The declarations of a spec are pieces of a line. -/
structure Spec.IsInline (Fair : (Bracket → Bool) → Prop) (s : Spec) : Prop where
  path_valid : isPath s.path = true
  component : isIdentifier s.component = true
  field_name : ∀ f ∈ s.fields, isIdentifier f.name = true
  field_type : ∀ f ∈ s.fields, Inline Fair f.type
  methods : ∀ m ∈ s.methods, m.IsInline Fair
  handles : s.handles.AreInline Fair

/-- **A sound spec whose free texts stand on one line each** has only pieces of a line. -/
theorem Spec.isInline (hs : s.WellFormed) (hbreak : ∀ t ∈ s.freeTexts, '\n' ∉ t.toList) :
    s.IsInline s.FreeTextsBalanced := by
  have hfree : ∀ t ∈ s.freeTexts, Inline s.FreeTextsBalanced t := fun t ht =>
    .of_balanced (hbreak t ht) fun _ hkinds => hkinds t ht
  have hhandle : ∀ t ∈ [s.handles.context, s.handles.component, s.handles.container,
      s.handles.update, s.handles.runtime], Inline s.FreeTextsBalanced t := fun t ht =>
    hfree t (List.mem_append_right _ ht)
  have hmethod : ∀ m ∈ s.methods, ∀ t ∈ m.params.map (·.type) ++ m.typeParams.map (·.bounds),
      Inline s.FreeTextsBalanced t := fun m hm t ht =>
    hfree t (List.mem_append_left _ (List.mem_append_right _ (List.mem_flatMap.mpr ⟨m, hm, ht⟩)))
  refine ⟨hs.path_valid, hs.component_valid, hs.fields_valid, ?_, ?_, ?_⟩
  · exact fun f hf => hfree _ (List.mem_append_left _
      (List.mem_append_left _ (List.mem_map_of_mem hf)))
  · intro m hm
    obtain hwell := hs.methods_wellFormed m hm
    refine ⟨hwell.name_valid, hwell.params_valid, ?_, hwell.typeParams_valid, ?_⟩
    · exact fun p hp => hmethod m hm _ (List.mem_append_left _ (List.mem_map_of_mem hp))
    · exact fun p hp => hmethod m hm _ (List.mem_append_right _ (List.mem_map_of_mem hp))
  · exact ⟨hhandle _ (by simp), hhandle _ (by simp), hhandle _ (by simp), hhandle _ (by simp),
      hhandle _ (by simp)⟩

namespace Method.IsInline

variable {m : Method} (hm : m.IsInline Fair)
include hm

theorem genericParams : Inline Fair (genericParams m.typeParams) := by
  refine inline_angled fun t ht => ?_
  obtain ⟨p, hp, rfl⟩ := List.mem_map.mp ht
  exact inline_typeParamText (hm.typeParam_name p hp) (hm.typeParam_bounds p hp)

theorem genericArgs : Inline Fair (genericArgs m.typeParams) := by
  refine inline_angled fun t ht => ?_
  obtain ⟨p, hp, rfl⟩ := List.mem_map.mp ht
  exact inline_name (hm.typeParam_name p hp)

/-- The name of the constructor of a method's command. -/
theorem constructorName : Inline Fair (constructorName m.name) :=
  (Fills.fixed.append (inline_name hm.name) |>.append .fixed).inline (by decide)

/-- A captured parameter as it is declared. -/
theorem captured_binding {p : Param} (hp : p ∈ m.captured) : Inline Fair p.binding.text :=
  have hmem : p ∈ m.params := List.mem_of_mem_filter hp
  inline_binding (hm.param_name p hmem) (hm.param_type p hmem)

end Method.IsInline

end Carryover
