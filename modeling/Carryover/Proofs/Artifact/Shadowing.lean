/-
# Shadowing in what is synthesised

The names that a spec chooses stand in functions next to names of the synthesis' own: captured
parameters where an update is requested, and boxes where it is applied.  None of them is shadowed
there, except for a single one.

The check of a spec refuses the names in `reservedNames`.  Each function is gone through for what
could shadow a name there, and all of that is reserved, or a keyword, or shadows nothing that is
used: a box is not used where its value has a name (`within_storeCode`), and a command without slots
has no boxes.  What is left is the closure of a lazy updater, whose first parameter is not reserved
(`clear_lazyCode_iff`).  `clear_synthesized_iff` puts the functions together, and
`exists_name_shadowed` is a spec whose box the closure does not see.
-/
import Carryover.Proofs.Artifact.Code
import Carryover.Proofs.Artifact.Names

namespace Carryover

open Source

variable {s : Spec} {m : Method} {f : Field}

/-! ## 1. Pieces -/

@[simp] theorem boundIn_bindingWords (b : Binding) :
    boundIn (bindingWords b) = [chosenName b.name] :=
  rfl

@[simp] theorem usedIn_bindingWords (b : Binding) : usedIn (bindingWords b) = [] :=
  rfl

@[simp] theorem boundIn_argumentWords (name : String) : boundIn (argumentWords name) = [] :=
  rfl

@[simp] theorem usedIn_argumentWords (name : String) :
    usedIn (argumentWords name) = [chosenName name] :=
  rfl

@[simp] theorem boundIn_contextWords (h : Handles) : boundIn (contextWords h) = [ownName "c"] :=
  rfl

@[simp] theorem usedIn_contextWords (h : Handles) : usedIn (contextWords h) = [] :=
  rfl

/-! ## 2. Names that a spec may choose -/

/-- The names of the synthesis' own that a spec cannot choose. -/
def ownNames : List String :=
  "self" :: reservedNames

/-- An identifier that is not reserved is none of the synthesis' own. -/
theorem not_mem_ownNames {name : String} (h : isIdentifier name = true)
    (hfree : name ∉ reservedNames) : name ∉ ownNames := by
  have hself : name ≠ "self" := by
    rintro rfl
    exact absurd h (by decide)
  exact List.not_mem_cons_of_ne_of_not_mem hself hfree

namespace Method.WellFormed

variable (hm : m.WellFormed s) {p : Param}
include hm

theorem param_free (hp : p ∈ m.params) : p.name ∉ ownNames :=
  not_mem_ownNames (hm.params_valid p hp) (hm.params_free p hp)

theorem captured_free (hp : p ∈ m.captured) : p.name ∉ ownNames :=
  hm.param_free (List.mem_of_mem_filter hp)

theorem slot_free (hp : p ∈ m.slots) : p.name ∉ ownNames :=
  hm.param_free (List.mem_of_mem_filter hp)

theorem captured_differ : (m.captured.map (·.name)).Nodup :=
  hm.params_differ.sublist (List.filter_sublist.map _)

theorem slots_differ : (m.slots.map (·.name)).Nodup :=
  hm.params_differ.sublist (List.filter_sublist.map _)

end Method.WellFormed

/-- A lazy field has none of the synthesis' own names that are reserved. -/
theorem Spec.WellFormed.lazy_free (hs : s.WellFormed) (hf : f ∈ s.lazyFields) :
    f.name ∉ ownNames :=
  have hmem : f ∈ s.fields := List.mem_of_mem_filter hf
  not_mem_ownNames (hs.fields_valid f hmem) (hs.fields_free f hmem)

/-! ## 3. Captured parameters -/

theorem flatMap_name (ps : List Param) : (ps.flatMap fun p => [p.name]) = ps.map (·.name) :=
  List.map_eq_flatMap.symm

theorem flatMap_none {α : Type} (ps : List Param) : (ps.flatMap fun _ => ([] : List α)) = [] :=
  List.flatMap_eq_nil_iff.mpr fun _ _ => rfl

/-- Code is clear if it binds captured parameters, and uses them where these names are bound. -/
theorem Method.WellFormed.clear_captured (hm : m.WellFormed s) {code : Code}
    (taken : List String) (htaken : taken ⊆ ownNames)
    (hbound : chosenBy .spec code.bound = m.captured.map (·.name))
    (hapart : (∀ t ∈ m.captured.map (·.name), t ∉ taken) → code.Apart []) : code.Clear := by
  have hfree : ∀ t ∈ m.captured.map (·.name), t ∉ taken :=
    List.forall_mem_map.mpr fun _ hp hmem => hm.captured_free hp (htaken hmem)
  exact Code.clear_iff.mpr ⟨hbound ▸ hm.captured_differ, hapart hfree⟩

/-- No parameter is shadowed in an entry point. -/
theorem Method.WellFormed.clear_entryPoint (hm : m.WellFormed s) (timing : Timing) :
    ((EntryPoint.ofMethod s m timing).code s).Clear := by
  refine hm.clear_captured ["component", "c"] (by decide) ?_ fun hfree => ?_
  · simp [EntryPoint.code, EntryPoint.headerWords, EntryPoint.makeWords, EntryPoint.requestWords,
      EntryPoint.ofMethod, scopeCode, List.flatMap_map, Param.binding, flatMap_none, flatMap_name]
  · simpa [EntryPoint.code, EntryPoint.headerWords, EntryPoint.makeWords, EntryPoint.requestWords,
      EntryPoint.ofMethod, scopeCode, List.flatMap_map, flatMap_name, Reach.beyond, Reach.into]
      using hfree

/-- No parameter is shadowed where the component makes a command. -/
theorem Method.WellFormed.clear_maker (hm : m.WellFormed s) : (makerCode s m).Clear := by
  refine hm.clear_captured ["self"] (by decide) ?_ fun hfree => ?_
  · cases hinjected : s.isInjected <;>
      simp [makerCode, makerParams, makerArguments, hinjected, List.flatMap_map, Param.binding,
        flatMap_none, flatMap_name]
  · cases hinjected : s.isInjected <;>
      simpa [makerCode, makerParams, makerArguments, hinjected, List.flatMap_map, flatMap_name]
        using hfree

/-- The constructor's value binds nothing. -/
theorem bound_initCode : (initCode s m).bound = [] := by
  unfold initCode newFields
  split
  · rfl
  · split <;> simp [List.flatMap_map, flatMap_none]

/-- The constructor's value uses captured parameters. -/
theorem apart_initCode {taken : List String} (h : ∀ t ∈ m.captured.map (·.name), t ∉ taken) :
    (initCode s m).Apart taken := by
  unfold initCode newFields
  split
  · simp
  · split <;> simpa [List.flatMap_map, flatMap_name] using h

/-- No parameter is shadowed where a command is made. -/
theorem Method.WellFormed.clear_new (hm : m.WellFormed s) : (newCode s m).Clear := by
  refine hm.clear_captured [specField] (by decide) ?_ fun hfree => ?_
  · cases hinjected : s.isInjected <;>
      simp [newCode, newParams, hinjected, bound_initCode, List.flatMap_map, Param.binding,
        flatMap_name]
  · have hinit : (initCode s m).Apart [specField] := apart_initCode hfree
    have hnone : (initCode s m).Apart [] := hinit.mono (List.nil_subset _)
    cases hinjected : s.isInjected with
    | false => simpa [newCode, newParams, hinjected, List.flatMap_map, flatMap_none] using hnone
    | true => simpa [newCode, newParams, hinjected, List.flatMap_map, flatMap_none] using hinit

/-! ## 4. Boxes -/

/-- A box that is filled leaves no names of the synthesis' own. -/
theorem within_seedCode {taken : List String} {h : Handles} {box : Binding} {seed : List Word}
    (hbox : box.name ∉ taken) (hused : chosenBy .spec (usedIn seed) = [])
    (hbound : boundIn seed = []) : Code.Within taken (seedCode h box seed) := by
  unfold seedCode
  refine .append (.ofLine ?_ ?_) (.ofLine ?_ ?_)
  · simp
  · simp
  · simpa [hused] using hbox
  · simp [hbound]

/-- A box is not used where its value has a name, so that name may be any. -/
theorem within_storeCode {taken : List String} {box : String} (hbox : box ∉ taken) :
    Code.Within taken (storeCode box) := by
  constructor
  · simpa [storeCode] using hbox
  · simp [storeCode]

theorem within_downcastWords {taken : List String} {name downcast : String}
    (hname : name ∈ taken) : Code.Within taken (.ofLine (downcastWords name downcast)) :=
  .ofLine (by simp [downcastWords]) (by simpa [downcastWords] using hname)

/-- Of a command its parameters and the spec's instance are used, of what is around it the slots. -/
theorem used_callWords {n : Name} (h : n ∈ usedIn (callWords s m)) :
    (n = ownName "this" ∧ (CommandType.ofMethod s m).fields.isEmpty = false) ∨
      ∃ p ∈ m.slots, n = chosenName p.name := by
  simp only [callWords, usedIn_append, usedIn_text, usedIn_commaWords, usedIn_nil, List.append_nil,
    List.mem_append, List.mem_flatMap, List.mem_map] at h
  rcases h with h | ⟨_, ⟨p, hp, rfl⟩, hn⟩
  · unfold receiverWords at h
    split at h
    · next hinjected =>
      refine .inl ⟨List.mem_singleton.mp h, ?_⟩
      simp [CommandType.ofMethod, CommandType.specFields, hinjected]
    · exact absurd h List.not_mem_nil
  · unfold callArgument at hn
    cases hrole : p.role with
    | captured =>
      have hcaptured : p ∈ m.captured := List.mem_filter.mpr ⟨hp, by simp [hrole]⟩
      refine .inl ⟨by simpa [hrole] using hn, ?_⟩
      have hfield : CommandType.capturedField p ∈ (CommandType.ofMethod s m).fields :=
        List.mem_append_right _ (List.mem_map_of_mem hcaptured)
      exact List.isEmpty_eq_false_iff.mpr (List.ne_nil_of_mem hfield)
    | slot =>
      have hslot : p ∈ m.slots := List.mem_filter.mpr ⟨hp, by simp [hrole]⟩
      exact .inr ⟨p, hslot, by simpa [hrole] using hn⟩

/-- The call of a method binds nothing. -/
theorem boundIn_callWords : boundIn (callWords s m) = [] := by
  have hreceiver : boundIn (receiverWords s) = [] := by
    unfold receiverWords
    split <;> rfl
  have hargument : ∀ p : Param, boundIn (callArgument p) = [] := by
    intro p
    unfold callArgument
    cases p.role <;> rfl
  simp [callWords, hreceiver, hargument, List.flatMap_map, flatMap_none]

/-- The body that applies a command is apart from names, if all slots are. -/
theorem within_bodyCode {taken : List String} (hown : ownNames ⊆ taken)
    (hslots : ∀ p ∈ m.slots, p.name ∉ taken) : Code.Within taken (bodyCode s m) := by
  have hthis : Code.Within taken (thisCode s m) := by
    unfold thisCode
    split
    · exact .done
    · exact .ofLine (by simp) (by simpa using hown (by decide))
  have hdowncast : Code.Within taken (downcastCode s m) := by
    unfold downcastCode
    split
    · exact .done
    · exact (within_downcastWords (hown (by decide))).append
        (within_downcastWords (hown (by decide)))
  have hseeds : Code.Within taken
      (.join (m.slots.map fun p => seedCode s.handles p.binding (slotWords p.name))) :=
    .join (List.forall_mem_map.mpr fun p hp => within_seedCode (hslots p hp) rfl rfl)
  have hcall : Code.Within taken (.ofLine (callWords s m)) := by
    refine .ofLine (fun t ht => ?_) (by simp [boundIn_callWords])
    rcases used_callWords (mem_chosenBy_iff.mp ht) with ⟨hthis, -⟩ | ⟨p, hp, hname⟩
    · exact absurd hthis (by simp [ownName])
    · have htext : t = p.name := congrArg Name.text hname
      rw [htext]
      exact hslots p hp
  have hstores : Code.Within taken (.join (m.slots.map fun p => storeCode p.name)) :=
    .join (List.forall_mem_map.mpr fun p hp => within_storeCode (hslots p hp))
  exact ((((hthis.append hdowncast).append hseeds).append hcall).append hstores).append .ofText

/-- The boxes are all that the spec chose where a command is applied. -/
theorem chosenBy_applyCode : chosenBy .spec (applyCode s m).bound = m.slots.map (·.name) := by
  have hthis : chosenBy .spec (thisCode s m).bound = [] := by
    unfold thisCode
    split <;> rfl
  have hdowncast : chosenBy .spec (downcastCode s m).bound = [] := by
    unfold downcastCode
    split <;> rfl
  have hseed : ∀ p : Param,
      chosenBy .spec (seedCode s.handles p.binding (slotWords p.name)).bound = [p.name] :=
    fun _ => rfl
  have hstore : ∀ p : Param, chosenBy .spec (storeCode p.name).bound = [] :=
    fun _ => rfl
  simp [applyCode, Code.bound, bodyCode, hthis, hdowncast, boundIn_callWords, List.flatMap_map,
    hseed, hstore, flatMap_name, flatMap_none]

/-- No box is shadowed where a command is applied. -/
theorem Method.WellFormed.clear_apply (hm : m.WellFormed s) : (applyCode s m).Clear := by
  refine Code.clear_iff.mpr ⟨chosenBy_applyCode ▸ hm.slots_differ, ?_⟩
  have hbody : (bodyCode s m).Apart [(if m.slots.isEmpty then "_" else "") ++ "new_component",
      (if m.slots.isEmpty then "_" else "") ++ "state_container", "self"] := by
    cases hslots : m.slots.isEmpty with
    | true =>
      -- Without slots there is no box that could be shadowed.
      have hnone : ∀ p ∈ m.slots,
          p.name ∉ "_new_component" :: "_state_container" :: ownNames := by
        intro p hp
        rw [List.isEmpty_iff.mp hslots] at hp
        exact absurd hp List.not_mem_nil
      exact (within_bodyCode (by simp) hnone).apart.mono (by decide)
    | false =>
      have hwithin := within_bodyCode (s := s) (List.Subset.refl ownNames) fun p hp =>
        hm.slot_free hp
      exact hwithin.apart.mono (by decide)
  simpa [applyCode, Code.Apart, Reach.beyond, Reach.into] using hbody

/-! ## 5. Lazy updaters -/

/-- **A box is shadowed in a lazy updater just if the field has the name of the first parameter of
the closure.** -/
theorem clear_lazyCode_iff (hfree : f.name ∉ ownNames) :
    (lazyCode s f).Clear ↔ f.name ≠ "_state_container" := by
  have hbound : chosenBy .spec (lazyCode s f).bound = [f.name] := by
    simp [lazyCode, lazyParams, seedCode, closureCode, storeCode, downcastWords,
      EntryPoint.requestWords]
  simp [ownNames, reservedNames] at hfree
  rw [Code.clear_iff, hbound]
  simp [lazyCode, lazyParams, seedCode, closureCode, storeCode, downcastWords, lazyValue,
    EntryPoint.requestWords, Reach.into, Reach.beyond, hfree]

/-! ## 6. Hooks -/

/-- Where the spec chose nothing, nothing is shadowed. -/
theorem clear_copyCode : (copyCode s).Clear :=
  Code.clear_iff.mpr ⟨by simp [copyCode], by simp [copyCode]⟩

theorem clear_accessorCode : (accessorCode s).Clear :=
  Code.clear_iff.mpr ⟨by simp [accessorCode], by simp [accessorCode]⟩

theorem clear_markerCode : markerCode.Clear :=
  Code.clear_iff.mpr ⟨by simp [markerCode], by simp [markerCode]⟩

theorem clear_transferCode : (transferCode s).Clear := by
  have hbound : ∀ code ∈ s.fields.map transferFieldCode, chosenBy .spec code.bound = [] :=
    List.forall_mem_map.mpr fun _ _ => rfl
  have hfields : ∀ taken, Code.Within taken (.join (s.fields.map transferFieldCode)) :=
    fun _ => .join (List.forall_mem_map.mpr fun f _ => .ofLine (by simp) (by simp))
  refine Code.clear_iff.mpr ⟨?_, ?_⟩
  · simp [transferCode, Code.bound, List.flatMap_eq_nil_iff.mpr hbound]
  · simp [transferCode, Code.Apart, (hfields _).apart]

/-! ## 7. All functions -/

/-- **Lazy updaters apart, all that is synthesised for a sound spec is clear.** -/
theorem Spec.WellFormed.clear_or_lazy (hs : s.WellFormed) {code : Code} (hcode : code ∈ s.codes) :
    code.Clear ∨ ∃ f ∈ s.lazyFields, code = lazyCode s f := by
  refine s.forall_mem_codes (P := fun code => code.Clear ∨ ∃ f ∈ s.lazyFields, code = lazyCode s f)
    (.inl clear_copyCode) (.inl clear_accessorCode) (.inl clear_markerCode)
    (.inl clear_transferCode) (fun m hm => ?_) (fun f hf => .inr ⟨f, hf, rfl⟩) code hcode
  have hmethod := hs.methods_wellFormed m hm
  exact ⟨fun timing => .inl (hmethod.clear_entryPoint timing), .inl hmethod.clear_maker,
    .inl hmethod.clear_new, .inl hmethod.clear_apply⟩

/-- **Names of a spec in what is synthesised.**  The functions of a sound spec are its codes, as
they are written.  In each of them the names that the spec chose differ, from each other and from
what the synthesis has bound where they are used, unless it is the lazy updater of a field with the
name of the first parameter of the closure. -/
theorem clear_synthesized_iff {a : Artifacts} (h : s.synthesize = .ok a) :
    a.functions.map (·.source) = s.functionCodes.map (fun code => renderLines 1 code.lines) ∧
    a.types.map (·.source) = s.typeCodes.map (fun t => renderLines 0 (typeLines t.1 t.2)) ∧
    ∀ code ∈ s.codes,
      code.Clear ↔ ¬ ∃ f ∈ s.lazyFields, f.name = "_state_container" ∧ code = lazyCode s f := by
  obtain ⟨hwell, rfl⟩ := Spec.synthesize_eq_ok_iff.mp h
  refine ⟨s.functions_eq, s.types_eq, fun code hcode => ?_⟩
  constructor
  · rintro hclear ⟨f, hf, hname, rfl⟩
    exact (clear_lazyCode_iff (hwell.lazy_free hf)).mp hclear hname
  · intro hnone
    rcases hwell.clear_or_lazy hcode with hclear | ⟨f, hf, rfl⟩
    · exact hclear
    · exact (clear_lazyCode_iff (hwell.lazy_free hf)).mpr fun hname => hnone ⟨f, hf, hname, rfl⟩

/-- A sound spec with a lazy field that has the name of the value of a box. -/
def valueHolder : Spec :=
  { Spec.ofComponent "Counter" with
    fields := [⟨"value", "i32", true⟩]
    methods := [⟨"add", [], [⟨.slot, "value", "i32"⟩, ⟨.captured, "amount", "i32"⟩]⟩] }

/-- Nothing is shadowed in what is synthesised for it. -/
theorem clear_valueHolder :
    valueHolder.synthesize = .ok valueHolder.artifacts ∧
      ∀ code ∈ valueHolder.codes, code.Clear := by
  have hsound : valueHolder.defects = [] := by decide
  have hsynthesize : valueHolder.synthesize = .ok valueHolder.artifacts :=
    Spec.synthesize_eq_ok_iff.mpr ⟨defects_eq_nil_iff.mp hsound, rfl⟩
  have hlazy : ∀ f ∈ valueHolder.lazyFields, f.name ≠ "_state_container" := by decide
  refine ⟨hsynthesize, fun code hcode => ?_⟩
  rw [(clear_synthesized_iff hsynthesize).2.2 code hcode]
  rintro ⟨f, hf, hname, -⟩
  exact hlazy f hf hname

/-- A spec with a lazy field that has the name of the first parameter of the closure. -/
def hiddenBox : Spec :=
  { Spec.ofComponent "Counter" with fields := [⟨"_state_container", "i32", true⟩] }

/-- **A sound spec has a name that is shadowed**: in the lazy updater of `hiddenBox` the name of the
box refers to the first parameter of the closure. -/
theorem exists_name_shadowed :
    hiddenBox.synthesize = .ok hiddenBox.artifacts ∧
      ∃ code ∈ hiddenBox.functionCodes, ¬ code.Clear ∧
        ∃ use ∈ code.uses [], use.name = chosenName "_state_container" ∧ use.name ∈ use.known ∧
          use.known.find? (·.text = use.name.text) = some (ownName "_state_container") := by
  have hsound : hiddenBox.defects = [] := by decide
  have hsynthesize : hiddenBox.synthesize = .ok hiddenBox.artifacts :=
    Spec.synthesize_eq_ok_iff.mpr ⟨defects_eq_nil_iff.mp hsound, rfl⟩
  have hcode : lazyCode hiddenBox ⟨"_state_container", "i32", true⟩ ∈ hiddenBox.functionCodes :=
    List.mem_append_right _ (List.mem_singleton.mpr rfl)
  have hunclear : ¬ (lazyCode hiddenBox ⟨"_state_container", "i32", true⟩).Clear := by
    rw [clear_lazyCode_iff (by decide)]
    exact fun hne => hne rfl
  -- Where the box is emptied, the parameters of the closure are known in front of it.
  have huse : ⟨chosenName "_state_container", [ownName "new_component", ownName "_state_container",
      ownName "new_component", chosenName "_state_container", ownName "c", ownName lazyValue]⟩ ∈
        (lazyCode hiddenBox ⟨"_state_container", "i32", true⟩).uses [] := by
    decide
  exact ⟨hsynthesize, _, hcode, hunclear, _, huse, rfl, by decide, by decide⟩

end Carryover
