/-
# Which synthesised names are identifiers

Names are made from the identifiers of a spec by putting words in front of them and behind them,
and by Pascal case.  A made name is a word, and no keyword, because every one of them holds an
underscore or a capital that no keyword holds (`isIdentifier_iff_of_marked`).  So all that can go
wrong is its first character.

It does go wrong for the command of a method such as `_1`: Pascal case drops the underscore, and
the type's name begins with the digit.  `isIdentifier_synthesized_iff` is that nothing else does,
and `exists_type_not_isIdentifier` is this case.
-/
import Carryover.Proofs.Artifact.Names
import Carryover.Proofs.Text.Case

namespace Carryover

/-! ## 1. Words and identifiers -/

/-- An identifier is a word that does not begin with a digit. -/
theorem head?_of_isIdentifier {name : String} (h : isIdentifier name = true) :
    ∃ c cs, name.toList = c :: cs ∧ c.isDigit = false := by
  have hword := isWordChar_of_isIdentifier h
  unfold isIdentifier at h
  cases hname : name.toList with
  | nil => simp [hname] at h
  | cons c cs =>
    rw [hname] at hword
    simp only [hname, Bool.and_eq_true] at h
    have hstart : Text.isWordStart c = true := h.1.1.1
    rw [Text.isWordStart_eq_not_isDigit (hword c List.mem_cons_self)] at hstart
    exact ⟨c, cs, rfl, by simpa using hstart⟩

/-- The characters that no keyword holds and every made name does. -/
def marks : List Char :=
  ['_', 'U', 'C']

/-- No keyword holds one of them. -/
theorem not_mem_keyword_of_mem_marks :
    ∀ k ∈ keywords, ∀ c ∈ marks, c ∉ k.toList := by
  have hall : keywords.all (fun k => marks.all fun c => !k.toList.contains c) = true := by
    decide
  intro k hk c hc
  simpa using List.all_eq_true.mp (List.all_eq_true.mp hall k hk) c hc

/-- **A marked word is an identifier unless it begins with a digit.** -/
theorem isIdentifier_iff_of_marked {name : String} {mark : Char} (hmark : mark ∈ marks)
    (hmem : mark ∈ name.toList) (hne : name ≠ "_")
    (hword : ∀ c ∈ name.toList, Text.isWordChar c = true) :
    isIdentifier name = true ↔ ∀ c ∈ name.toList.head?, c.isDigit = false := by
  have hkeyword : name ∉ keywords := fun hk =>
    not_mem_keyword_of_mem_marks name hk mark hmark hmem
  unfold isIdentifier
  cases hname : name.toList with
  | nil =>
    rw [hname] at hmem
    exact absurd hmem List.not_mem_nil
  | cons c cs =>
    rw [hname] at hword
    obtain ⟨hc, hcs⟩ := List.forall_mem_cons.mp hword
    simp [Text.isWordStart_eq_not_isDigit hc, List.all_eq_true.mpr hcs, hne, hkeyword]

/-- An identifier with a word behind it is an identifier, if the two are marked together. -/
theorem isIdentifier_append {name word : String} {mark : Char} (h : isIdentifier name = true)
    (hword : ∀ c ∈ word.toList, Text.isWordChar c = true) (hmark : mark ∈ marks)
    (hmem : mark ∈ (name ++ word).toList) : isIdentifier (name ++ word) = true := by
  obtain ⟨c, cs, hname, hdigit⟩ := head?_of_isIdentifier h
  have hne : name ++ word ≠ "_" := by
    intro heq
    have hlist : c :: (cs ++ word.toList) = ['_'] := by
      rw [← List.cons_append, ← hname, ← String.toList_append, heq]
      rfl
    obtain ⟨rfl, hnil⟩ := List.cons.inj hlist
    have hunderscore : name = "_" := by
      rw [← String.toList_inj, hname, (List.append_eq_nil_iff.mp hnil).1]
      rfl
    exact absurd h (by rw [hunderscore]; decide)
  rw [isIdentifier_iff_of_marked hmark hmem hne]
  · rw [String.toList_append, hname]
    rintro d ⟨⟩
    exact hdigit
  · rw [String.toList_append]
    intro d hd
    rcases List.mem_append.mp hd with hd | hd
    · exact isWordChar_of_isIdentifier h d hd
    · exact hword d hd

/-! ## 2. The made names -/

/-- The entry points of a method have usable names. -/
theorem isIdentifier_entryPointName {method : String} (h : isIdentifier method = true)
    (timing : Timing) : isIdentifier (entryPointName method timing) = true := by
  cases timing with
  | sync => exact h
  | async =>
    refine isIdentifier_append h (List.all_eq_true.mp (by decide)) (show '_' ∈ marks by decide) ?_
    rw [String.toList_append]
    exact List.mem_append_right _ (by decide)

/-- The constructor of a command has a usable name. -/
theorem isIdentifier_constructorName {method : String} (h : isIdentifier method = true) :
    isIdentifier (constructorName method) = true := by
  unfold constructorName
  rw [String.append_assoc]
  refine isIdentifier_append (by decide) ?_ (show '_' ∈ marks by decide) ?_
  · rw [String.toList_append]
    intro c hc
    rcases List.mem_append.mp hc with hc | hc
    · exact isWordChar_of_isIdentifier h c hc
    · exact List.all_eq_true.mp (show "_state_update".toList.all Text.isWordChar by decide) c hc
  · rw [String.toList_append]
    exact List.mem_append_left _ (by decide)

/-- A lazy updater has a usable name. -/
theorem isIdentifier_lazyUpdaterName {field : String} (h : isIdentifier field = true) :
    isIdentifier (lazyUpdaterName field) = true := by
  refine isIdentifier_append (by decide) (isWordChar_of_isIdentifier h)
    (show '_' ∈ marks by decide) ?_
  rw [String.toList_append]
  exact List.mem_append_left _ (by decide)

/-- The container has a usable name. -/
theorem Spec.isIdentifier_containerName {s : Spec} (h : isIdentifier s.component = true) :
    isIdentifier s.containerName = true := by
  refine isIdentifier_append h (List.all_eq_true.mp (by decide)) (show 'C' ∈ marks by decide) ?_
  rw [String.toList_append]
  exact List.mem_append_right _ (by decide)

/-- Is the first character that is no underscore a digit? -/
def digitLeads (name : String) : Bool :=
  (name.toList.dropWhile (· == '_')).head?.any Char.isDigit

/-- **A command has a usable name unless a digit leads the name of its method.** -/
theorem isIdentifier_commandTypeName_iff {method : String} (h : isIdentifier method = true) :
    isIdentifier (commandTypeName method) = true ↔ digitLeads method = false := by
  have hword := isWordChar_of_isIdentifier h
  have hlist : (commandTypeName method).toList
      = Text.Case.toPascal method.toList ++ "StateUpdate".toList := by
    unfold commandTypeName
    rw [String.toList_append, String.toList_ofList]
  have hne : commandTypeName method ≠ "_" := by
    intro heq
    have hlen := congrArg List.length hlist
    rw [heq, List.length_append] at hlen
    exact absurd hlen (by simp)
  have hmem : 'U' ∈ (commandTypeName method).toList := by
    rw [hlist]
    exact List.mem_append_right _ (by decide)
  rw [isIdentifier_iff_of_marked (show 'U' ∈ marks by decide) hmem hne, hlist,
    List.head?_append, Text.Case.head?_toPascal hword]
  · unfold digitLeads
    cases hhead : (method.toList.dropWhile (· == '_')).head? with
    | none => simp
    | some c =>
      have hc : Text.isWordChar c = true :=
        hword c (List.dropWhile_subset _ (List.mem_of_head? hhead))
      simp [Text.isDigit_toUpper hc]
  · rw [hlist]
    intro c hc
    rcases List.mem_append.mp hc with hc | hc
    · exact Text.Case.isWordChar_toPascal hword c hc
    · exact List.all_eq_true.mp (show "StateUpdate".toList.all Text.isWordChar by decide) c hc

/-! ## 3. What is synthesised -/

/-- The overrides have usable names. -/
theorem Spec.isIdentifier_of_mem_override {s : Spec} (h : s.hasState = true) {name : String}
    (hname : name ∈ s.artifacts.functionNames .override) : isIdentifier name = true := by
  rw [functionNames_override h] at hname
  revert name
  cases s.wantsMarker <;> decide

/-- The component's functions have usable names. -/
theorem Spec.isIdentifier_of_mem_inherent {s : Spec} (h : s.hasState = true) (hs : s.WellFormed)
    {name : String} (hname : name ∈ s.artifacts.functionNames .inherent) :
    isIdentifier name = true := by
  rw [functionNames_inherent h] at hname
  rcases List.mem_append.mp hname with hname | hname
  · rcases List.mem_append.mp hname with hname | hname
    · obtain ⟨m, hm, hname⟩ := List.mem_flatMap.mp hname
      have hmethod := (hs.methods_wellFormed m hm).name_valid
      rcases List.mem_pair.mp hname with rfl | rfl
      · exact isIdentifier_entryPointName hmethod .sync
      · exact isIdentifier_entryPointName hmethod .async
    · obtain ⟨m, hm, rfl⟩ := List.mem_map.mp hname
      exact isIdentifier_constructorName (hs.methods_wellFormed m hm).name_valid
  · obtain ⟨f, hf, rfl⟩ := List.mem_map.mp hname
    exact isIdentifier_lazyUpdaterName (hs.fields_valid f (List.mem_of_mem_filter hf))

/-- **Every synthesised name is an identifier, but for the commands of methods led by a digit.** -/
theorem isIdentifier_synthesized_iff {s : Spec} {a : Artifacts} (h : s.synthesize = .ok a) :
    (∀ f ∈ a.functions, isIdentifier f.name = true) ∧
      ∀ t ∈ a.types, isIdentifier t.name = true ↔
        ¬ ∃ m ∈ s.methods, t.name = commandTypeName m.name ∧ digitLeads m.name = true := by
  obtain ⟨hs, rfl⟩ := Spec.synthesize_eq_ok_iff.mp h
  cases hstate : s.hasState with
  | false =>
    rw [Spec.artifacts_of_stateless hstate]
    exact ⟨fun f hf => absurd hf List.not_mem_nil, fun t ht => absurd ht List.not_mem_nil⟩
  | true =>
    have hcommand : ∀ m ∈ s.methods,
        (isIdentifier (commandTypeName m.name) = true ↔ digitLeads m.name = false) :=
      fun m hm => isIdentifier_commandTypeName_iff (hs.methods_wellFormed m hm).name_valid
    constructor
    · intro f hf
      have hname := Artifacts.name_mem_functionNames hf
      cases hp : f.placement with
      | override => exact Spec.isIdentifier_of_mem_override hstate (hp ▸ hname)
      | inherent => exact Spec.isIdentifier_of_mem_inherent hstate hs (hp ▸ hname)
    · intro t ht
      constructor
      · rintro hvalid ⟨m, hm, heq, hdigit⟩
        rw [heq, hcommand m hm, hdigit] at hvalid
        exact absurd hvalid nofun
      · intro hnone
        have hname : t.name ∈ s.artifacts.typeNames := List.mem_map_of_mem ht
        rw [Spec.typeNames_artifacts hstate] at hname
        rcases List.mem_cons.mp hname with heq | hname
        · rw [heq]
          exact Spec.isIdentifier_containerName hs.component_valid
        · obtain ⟨m, hm, heq⟩ := List.mem_map.mp hname
          rw [← heq, hcommand m hm, ← Bool.not_eq_true]
          exact fun hdigit => hnone ⟨m, hm, heq.symm, hdigit⟩

/-- A sound spec with a method that is a digit behind an underscore. -/
def digitLed : Spec :=
  { Spec.ofComponent "Counter" with
    fields := [⟨"count", "i32", false⟩]
    methods := [⟨"_1", [], []⟩] }

/-- It is accepted, and so its module is synthesised. -/
theorem synthesize_digitLed : digitLed.synthesize = .ok digitLed.artifacts := by
  have hsound : digitLed.defects = [] := by decide
  exact Spec.synthesize_eq_ok_iff.mpr ⟨defects_eq_nil_iff.mp hsound, rfl⟩

/-- One of its types is named `1StateUpdate`. -/
theorem exists_type_digitLed : ∃ t ∈ digitLed.artifacts.types, t.name = "1StateUpdate" := by
  have hname : "1StateUpdate" ∈ digitLed.artifacts.typeNames := by
    rw [Spec.typeNames_artifacts rfl]
    decide
  obtain ⟨t, ht, heq⟩ := List.mem_map.mp hname
  exact ⟨t, ht, heq⟩

/-- All its functions have usable names, and one of its types has not. -/
theorem isIdentifier_digitLed :
    digitLed.synthesize = .ok digitLed.artifacts ∧
      (∀ f ∈ digitLed.artifacts.functions, isIdentifier f.name = true) ∧
      ∃ t ∈ digitLed.artifacts.types, isIdentifier t.name = false := by
  have hnames := isIdentifier_synthesized_iff synthesize_digitLed
  refine ⟨synthesize_digitLed, hnames.1, ?_⟩
  obtain ⟨t, ht, heq⟩ := exists_type_digitLed
  refine ⟨t, ht, Bool.not_eq_true _ ▸ fun hvalid => ?_⟩
  exact (hnames.2 t ht).mp hvalid
    ⟨⟨"_1", [], []⟩, List.mem_singleton.mpr rfl, heq.trans (by decide), by decide⟩

/-- **A sound spec can have a type whose name is no identifier.** -/
theorem exists_type_not_isIdentifier :
    ¬ ∀ (s : Spec) (a : Artifacts), s.synthesize = .ok a →
      (∀ f ∈ a.functions, isIdentifier f.name = true) ∧
        ∀ t ∈ a.types, isIdentifier t.name = true := by
  intro hall
  obtain ⟨t, ht, heq⟩ := exists_type_digitLed
  have hvalid := (hall digitLed digitLed.artifacts synthesize_digitLed).2 t ht
  rw [heq] at hvalid
  exact absurd hvalid (by decide)

end Carryover
