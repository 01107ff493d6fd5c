/-
# Well-formed specs

`Spec.WellFormed` says what a spec has to be, without looking at the order of its declarations:
every name is usable, no name is declared twice in one place, slots and type parameters refer to
something, and the names to be synthesised differ.  `Spec.check` walks through the spec and
collects defects.  `check_eq_ok_iff_wellFormed` is that it accepts exactly the well-formed specs.

Each kind of declaration has one lemma of the form `… .defects = [] ↔ …`.  They are put together
from the inside out: fields, parameters and type parameters, methods, synthesised names, specs.
Two things need care.  A slot is compared with the first field of its name, which is the only one
once field names differ; and repeated methods and fields are left out before names are
synthesised, which hides nothing once there are none.
-/
import Carryover.Proofs.Model.Earlier
import Carryover.Proofs.Text.Word

namespace Carryover

/-! ## 1. What a spec has to be -/

/-- A method that can be synthesised beside the fields of a spec. -/
structure Method.WellFormed (s : Spec) (m : Method) : Prop where
  name_valid : isIdentifier m.name = true
  params_valid : ∀ p ∈ m.params, isIdentifier p.name = true
  params_free : ∀ p ∈ m.params, p.name ∉ reservedNames
  params_differ : (m.params.map (·.name)).Nodup
  slots_declared : ∀ p ∈ m.slots, ∃ f ∈ s.fields, f.name = p.name ∧ f.type = p.type
  typeParams_valid : ∀ p ∈ m.typeParams, isIdentifier p.name = true
  typeParams_differ : (m.typeParams.map (·.name)).Nodup
  typeParams_used : ∀ p ∈ m.typeParams, ∃ c ∈ m.captured, Text.HasWord c.type p.name
  /-- No captured parameter is stored under the name of a slot. -/
  members_free : ∀ c ∈ m.captured, ∀ p ∈ m.slots, "m_" ++ c.name ≠ p.name

/-- The functions that are synthesised for a spec. -/
def Spec.functionNames (s : Spec) : List String :=
  s.methods.flatMap (fun m =>
    [entryPointName m.name .sync, entryPointName m.name .async, constructorName m.name]) ++
  s.lazyFields.map fun f => lazyUpdaterName f.name

/-- The component with the types that are synthesised for it. -/
def Spec.typeNames (s : Spec) : List String :=
  s.component :: s.containerName :: s.methods.map fun m => commandTypeName m.name

/-- A spec without defects. -/
structure Spec.WellFormed (s : Spec) : Prop where
  path_valid : isPath s.path = true
  component_valid : isIdentifier s.component = true
  fields_valid : ∀ f ∈ s.fields, isIdentifier f.name = true
  fields_free : ∀ f ∈ s.fields, f.name ∉ reservedNames
  fields_differ : (s.fields.map (·.name)).Nodup
  methods_wellFormed : ∀ m ∈ s.methods, m.WellFormed s
  methods_differ : (s.methods.map (·.name)).Nodup
  functions_differ : s.fields ≠ [] → s.functionNames.Nodup
  types_differ : s.fields ≠ [] → s.typeNames.Nodup

/-! ## 2. Fields -/

/-- The fields have no defects when their names are usable and differ. -/
theorem fieldDefects_eq_nil_iff {fields : List Field} :
    (withEarlier fields).flatMap (fun (before, f) => f.defects before) = [] ↔
      (∀ f ∈ fields, isIdentifier f.name = true) ∧ (∀ f ∈ fields, f.name ∉ reservedNames) ∧
        (fields.map (·.name)).Nodup := by
  rw [List.flatMap_eq_nil_iff, ← no_namesake_iff,
    ← forall_mem_withEarlier (P := fun f : Field => isIdentifier f.name = true),
    ← forall_mem_withEarlier (P := fun f : Field => f.name ∉ reservedNames),
    ← forall₂_and, ← forall₂_and]
  refine forall₂_congr fun e _ => ?_
  simp [Field.defects]

/-! ## 3. Parameters and type parameters -/

/-- A name finds the one field that has it. -/
theorem field?_eq_some_iff {s : Spec} (h : (s.fields.map (·.name)).Nodup) {name : String}
    {f : Field} : s.field? name = some f ↔ f ∈ s.fields ∧ f.name = name := by
  unfold Spec.field?
  constructor
  · intro hf
    exact ⟨List.mem_of_find?_eq_some hf, by simpa using List.find?_some hf⟩
  · rintro ⟨hf, hname⟩
    cases hfound : s.fields.find? (·.name == name) with
    | none => exact absurd hname (by simpa using List.find?_eq_none.mp hfound f hf)
    | some g =>
      have hg : g ∈ s.fields := List.mem_of_find?_eq_some hfound
      have hgname : g.name = name := by simpa using List.find?_some hfound
      rw [List.inj_on_of_nodup_map h hg hf (hgname.trans hname.symm)]

/-- A slot has no defect of its own when its field is declared with its type. -/
theorem slotDefects_eq_nil_iff {s : Spec} (h : (s.fields.map (·.name)).Nodup) {method : String}
    {p : Param} : p.slotDefects s method = [] ↔
      (p.role = .slot → ∃ f ∈ s.fields, f.name = p.name ∧ f.type = p.type) := by
  unfold Param.slotDefects
  cases hrole : p.role with
  | captured => simp
  | slot =>
    cases hfield : s.field? p.name with
    | none =>
      have hnone : ∀ f ∈ s.fields, f.name ≠ p.name := fun f hf hname =>
        absurd ((field?_eq_some_iff h).mpr ⟨hf, hname⟩) (by rw [hfield]; exact nofun)
      simp only [reduceCtorEq, forall_const, false_iff]
      rintro ⟨f, hf, hname, -⟩
      exact hnone f hf hname
    | some f =>
      obtain ⟨hf, hname⟩ := (field?_eq_some_iff h).mp hfield
      simp only [reportIf_eq_nil_iff, bne_eq_false_iff_eq, forall_const]
      constructor
      · exact fun htype => ⟨f, hf, hname, htype⟩
      · rintro ⟨g, hg, hgname, htype⟩
        rwa [List.inj_on_of_nodup_map h hf hg (hname.trans hgname.symm)]

/-- The parameters of a method have no defects when their names are usable and differ and their
slots are declared. -/
theorem paramDefects_eq_nil_iff {s : Spec} (h : (s.fields.map (·.name)).Nodup) {m : Method} :
    (withEarlier m.params).flatMap (fun (before, p) => p.defects s m.name before) = [] ↔
      (∀ p ∈ m.params, isIdentifier p.name = true) ∧
        (∀ p ∈ m.params, p.name ∉ reservedNames) ∧ (m.params.map (·.name)).Nodup ∧
        ∀ p ∈ m.slots, ∃ f ∈ s.fields, f.name = p.name ∧ f.type = p.type := by
  have hslots : (∀ p ∈ m.slots, ∃ f ∈ s.fields, f.name = p.name ∧ f.type = p.type) ↔
      ∀ p ∈ m.params, p.slotDefects s m.name = [] := by
    simp only [slotDefects_eq_nil_iff h, Method.slots, List.mem_filter, decide_eq_true_eq,
      and_imp]
  rw [List.flatMap_eq_nil_iff, hslots, ← no_namesake_iff,
    ← forall_mem_withEarlier (P := fun p : Param => isIdentifier p.name = true),
    ← forall_mem_withEarlier (P := fun p : Param => p.name ∉ reservedNames),
    ← forall_mem_withEarlier (P := fun p : Param => p.slotDefects s m.name = []),
    ← forall₂_and, ← forall₂_and, ← forall₂_and]
  refine forall₂_congr fun e _ => ?_
  simp [Param.defects]

/-- A method uses a type parameter when a captured parameter's type has the word. -/
theorem usesType_iff {m : Method} {p : TypeParam} (h : isIdentifier p.name = true) :
    m.usesType p.name = true ↔ ∃ c ∈ m.captured, Text.HasWord c.type p.name := by
  unfold Method.usesType
  simp only [List.any_eq_true, Text.mentions_iff_hasWord (isWordChar_of_isIdentifier h)]

/-- The type parameters of a method have no defects when their names are usable, differ and are
used. -/
theorem typeParamDefects_eq_nil_iff {m : Method} :
    (withEarlier m.typeParams).flatMap (fun (before, p) => p.defects m before) = [] ↔
      (∀ p ∈ m.typeParams, isIdentifier p.name = true) ∧ (m.typeParams.map (·.name)).Nodup ∧
        ∀ p ∈ m.typeParams, ∃ c ∈ m.captured, Text.HasWord c.type p.name := by
  rw [List.flatMap_eq_nil_iff, ← no_namesake_iff,
    ← forall_mem_withEarlier (P := fun p : TypeParam => isIdentifier p.name = true),
    ← forall_mem_withEarlier
      (P := fun p : TypeParam => ∃ c ∈ m.captured, Text.HasWord c.type p.name),
    ← forall₂_and, ← forall₂_and]
  refine forall₂_congr fun e _ => ?_
  simp only [TypeParam.defects, List.append_eq_nil_iff, reportIf_eq_nil_iff,
    Bool.not_eq_false', and_assoc]
  refine and_congr_right fun hvalid => and_congr_right fun _ => ?_
  exact usesType_iff hvalid

/-! ## 4. Methods -/

/-- No captured parameter is stored under the name of a slot when the names say so. -/
theorem memberDefects_eq_nil_iff {m : Method} :
    m.captured.flatMap m.memberDefects = [] ↔
      ∀ c ∈ m.captured, ∀ p ∈ m.slots, "m_" ++ c.name ≠ p.name := by
  rw [List.flatMap_eq_nil_iff]
  refine forall₂_congr fun c _ => ?_
  unfold Method.memberDefects memberName
  rw [reportIf_eq_nil_iff, List.any_eq_false]
  refine forall₂_congr fun p _ => ?_
  rw [beq_iff_eq]
  exact not_congr eq_comm

/-- **A method has no defects of its own when it is well-formed.** -/
theorem methodDefects_eq_nil_iff {s : Spec} (h : (s.fields.map (·.name)).Nodup) {m : Method} :
    m.defects s = [] ↔ m.WellFormed s := by
  unfold Method.defects
  rw [List.append_eq_nil_iff, List.append_eq_nil_iff, List.append_eq_nil_iff,
    reportIf_eq_nil_iff, Bool.not_eq_false', paramDefects_eq_nil_iff h,
    typeParamDefects_eq_nil_iff, memberDefects_eq_nil_iff]
  constructor
  · rintro ⟨⟨⟨hname, hvalid, hfree, hdiffer, hslots⟩, htvalid, htdiffer, hused⟩, hmembers⟩
    exact ⟨hname, hvalid, hfree, hdiffer, hslots, htvalid, htdiffer, hused, hmembers⟩
  · rintro ⟨hname, hvalid, hfree, hdiffer, hslots, htvalid, htdiffer, hused, hmembers⟩
    exact ⟨⟨⟨hname, hvalid, hfree, hdiffer, hslots⟩, htvalid, htdiffer, hused⟩, hmembers⟩

/-- No method is repeated when the names of methods differ. -/
theorem repeatDefects_eq_nil_iff {methods : List Method} :
    (withEarlier methods).flatMap (fun (before, m) => m.repeatDefects before) = [] ↔
      (methods.map (·.name)).Nodup := by
  rw [List.flatMap_eq_nil_iff, ← no_namesake_iff]
  refine forall₂_congr fun e _ => ?_
  simp [Method.repeatDefects]

/-! ## 5. Synthesised names -/

/-- The names that lie in one space. -/
def namesIn (space : NameSpace) (products : List Product) : List String :=
  (products.filter (·.space = space)).map (·.name)

/-- No two names meet when the names of each space differ. -/
theorem productDefects_eq_nil_iff {products : List Product} :
    (withEarlier products).flatMap (fun (before, p) => p.defects before) = [] ↔
      (namesIn .functions products).Nodup ∧ (namesIn .types products).Nodup := by
  have hmeets : ∀ e : List Product × Product,
      e.2.defects e.1 = [] ↔ ∀ q ∈ e.1, ¬ (q.space = e.2.space ∧ q.name = e.2.name) := by
    intro e
    have hfind : e.2.defects e.1 = [] ↔ e.1.find? e.2.meets = none := by
      unfold Product.defects
      cases e.1.find? e.2.meets <;> simp
    rw [hfind, List.find?_eq_none]
    refine forall₂_congr fun q _ => ?_
    unfold Product.meets
    rw [Bool.and_eq_true, beq_iff_eq, beq_iff_eq]
    exact not_congr (and_congr eq_comm eq_comm)
  have hspace : ∀ space, (namesIn space products).Nodup ↔
      products.Pairwise fun q p => q.space = space → p.space = space → q.name ≠ p.name := by
    intro space
    unfold namesIn
    rw [List.Nodup, List.pairwise_map, List.pairwise_filter]
    simp only [decide_eq_true_eq]
  rw [List.flatMap_eq_nil_iff, hspace, hspace, ← List.pairwise_and_iff,
    ← forall_earlier_iff]
  refine forall₂_congr fun e _ => (hmeets e).trans (forall₂_congr fun q _ => ?_)
  cases q.space <;> cases e.2.space <;> simp

/-- The functions among the names of a method. -/
theorem namesIn_functions_products (methods : List Method) :
    namesIn .functions (methods.flatMap Method.products) = methods.flatMap fun m =>
      [entryPointName m.name .sync, entryPointName m.name .async, constructorName m.name] := by
  unfold namesIn
  rw [List.filter_flatMap, List.map_flatMap]
  rfl

/-- The types among the names of a method. -/
theorem namesIn_types_products (methods : List Method) :
    namesIn .types (methods.flatMap Method.products)
      = methods.map fun m => commandTypeName m.name := by
  unfold namesIn
  rw [List.filter_flatMap, List.map_flatMap, List.map_eq_flatMap]
  rfl

/-- A lazy updater is a function. -/
theorem namesIn_map_product (space : NameSpace) (fields : List Field) :
    namesIn space (fields.map Field.product)
      = if space = .functions then fields.map (fun f => lazyUpdaterName f.name) else [] := by
  unfold namesIn
  rw [List.filter_map, List.map_map]
  cases space with
  | functions =>
    rw [if_pos rfl]
    exact congrArg _ (List.filter_eq_self.mpr fun _ _ => rfl)
  | types =>
    rw [if_neg nofun]
    have hnone : fields.filter ((fun p => decide (p.space = NameSpace.types)) ∘ Field.product)
        = [] := List.filter_eq_nil_iff.mpr fun f _ => by simp [Field.product]
    rw [hnone, List.map_nil]

/-- Names of one space are found part by part. -/
theorem namesIn_append (space : NameSpace) (ps qs : List Product) :
    namesIn space (ps ++ qs) = namesIn space ps ++ namesIn space qs := by
  unfold namesIn
  rw [List.filter_append, List.map_append]

/-- Without repetitions every method and every lazy field has its names. -/
theorem products_eq {s : Spec} (hfields : (s.fields.map (·.name)).Nodup)
    (hmethods : (s.methods.map (·.name)).Nodup) :
    s.products = [⟨.types, s.component, .component⟩, ⟨.types, s.containerName, .container⟩] ++
      s.methods.flatMap Method.products ++ s.lazyFields.map Field.product := by
  have hlazy : (s.lazyFields.map (·.name)).Nodup :=
    hfields.sublist (List.filter_sublist.map _)
  unfold Spec.products
  rw [firsts_eq_self hmethods, firsts_eq_self hlazy]

/-- **The synthesised names have no defects when they differ**, and without state there are
none. -/
theorem nameDefects_eq_nil_iff {s : Spec} (hfields : (s.fields.map (·.name)).Nodup)
    (hmethods : (s.methods.map (·.name)).Nodup) :
    s.nameDefects = [] ↔ (s.fields ≠ [] → s.functionNames.Nodup) ∧
      (s.fields ≠ [] → s.typeNames.Nodup) := by
  have hfunctions : namesIn .functions s.products = s.functionNames := by
    rw [products_eq hfields hmethods, namesIn_append, namesIn_append,
      namesIn_functions_products, namesIn_map_product]
    rfl
  have htypes : namesIn .types s.products = s.typeNames := by
    rw [products_eq hfields hmethods, namesIn_append, namesIn_append, namesIn_types_products,
      namesIn_map_product, if_neg nofun, List.append_nil]
    rfl
  unfold Spec.nameDefects
  rw [← imp_and, ← hfunctions, ← htypes, ← productDefects_eq_nil_iff]
  cases hstate : s.fields with
  | nil => simp [Spec.hasState, hstate]
  | cons f fs => simp [Spec.hasState, hstate]

/-! ## 6. Specs -/

/-- A spec without defects is well-formed, and the other way round. -/
theorem defects_eq_nil_iff {s : Spec} : s.defects = [] ↔ s.WellFormed := by
  unfold Spec.defects
  rw [List.append_eq_nil_iff, List.append_eq_nil_iff, List.append_eq_nil_iff,
    List.append_eq_nil_iff, List.append_eq_nil_iff, reportIf_eq_nil_iff, reportIf_eq_nil_iff,
    Bool.not_eq_false', Bool.not_eq_false', fieldDefects_eq_nil_iff, repeatDefects_eq_nil_iff,
    List.flatMap_eq_nil_iff]
  constructor
  · rintro ⟨⟨⟨⟨⟨hpath, hcomponent⟩, hvalid, hfree, hfields⟩, hwell⟩, hmethods⟩, hnames⟩
    obtain ⟨hfunctions, htypes⟩ := (nameDefects_eq_nil_iff hfields hmethods).mp hnames
    exact ⟨hpath, hcomponent, hvalid, hfree, hfields,
      fun m hm => (methodDefects_eq_nil_iff hfields).mp (hwell m hm), hmethods, hfunctions,
      htypes⟩
  · intro h
    refine ⟨⟨⟨⟨⟨h.path_valid, h.component_valid⟩, h.fields_valid, h.fields_free,
      h.fields_differ⟩, ?_⟩, h.methods_differ⟩, ?_⟩
    · exact fun m hm => (methodDefects_eq_nil_iff h.fields_differ).mpr (h.methods_wellFormed m hm)
    · exact (nameDefects_eq_nil_iff h.fields_differ h.methods_differ).mpr
        ⟨h.functions_differ, h.types_differ⟩

/-- A spec is accepted when it has no defects. -/
theorem Spec.check_eq_ok_iff {s : Spec} : s.check = .ok () ↔ s.defects = [] := by
  unfold check
  cases s.defects <;> simp

/-- A well-formed spec is accepted. -/
theorem check_of_wellFormed {s : Spec} (h : s.WellFormed) : s.check = .ok () :=
  Spec.check_eq_ok_iff.mpr (defects_eq_nil_iff.mpr h)

/-- An accepted spec is well-formed. -/
theorem wellFormed_of_check {s : Spec} (h : s.check = .ok ()) : s.WellFormed :=
  defects_eq_nil_iff.mp (Spec.check_eq_ok_iff.mp h)

/-- **The check accepts exactly the well-formed specs.** -/
theorem check_eq_ok_iff_wellFormed (s : Spec) : s.check = .ok () ↔ s.WellFormed := by
  rw [← defects_eq_nil_iff]
  unfold Spec.check
  cases s.defects <;> simp

end Carryover
