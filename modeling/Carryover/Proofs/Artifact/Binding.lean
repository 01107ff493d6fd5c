/-
# What names refer to

In what is synthesised every name is known where it is used (`Spec.grounded_of_mem_codes`).  For
most names that is seen by going along the lines of a function.  Some depend on the spec: a command
names itself only if it has fields (`this_mem_left`), and the container and the component have their
plain names only if it has slots.  They are used in no other case, because of a command nothing is
used but its fields, and of a container and a component nothing but slots (`used_callWords`).

What is synthesised for a sound spec is clear, lazy updaters apart.  So each name of the spec that
is used there refers to what the spec has given it to (`Spec.WellFormed.refers`).
-/
import Carryover.Proofs.Artifact.Shadowing

namespace Carryover

open Source

variable {s : Spec} {m : Method} {f : Field} {known : List Name}

/-! ## 1. Requests -/

theorem grounded_entryPoint (timing : Timing) :
    Code.Grounded [] ((EntryPoint.ofMethod s m timing).code s) := by
  have hcaptured : ∀ n, ∀ p ∈ m.captured, n = chosenName p.name →
      n = ownName "component" ∨ n = ownName "c" ∨ ∃ q ∈ m.captured, n = chosenName q.name :=
    fun _ p hp hn => .inr (.inr ⟨p, hp, hn⟩)
  simpa [EntryPoint.code, EntryPoint.headerWords, EntryPoint.makeWords, EntryPoint.requestWords,
    EntryPoint.ofMethod, scopeCode, List.flatMap_map, Param.binding, Reach.beyond, Reach.into]
    using hcaptured

theorem grounded_maker : Code.Grounded [] (makerCode s m) := by
  cases hinjected : s.isInjected with
  | false =>
    have hcaptured : ∀ n, ∀ p ∈ m.captured, n = chosenName p.name →
        n = ownName "self" ∨ ∃ q ∈ m.captured, n = chosenName q.name :=
      fun _ p hp hn => .inr ⟨p, hp, hn⟩
    simpa [makerCode, makerParams, makerArguments, hinjected, List.flatMap_map, Param.binding]
      using hcaptured
  | true =>
    simp [makerCode, makerParams, makerArguments, hinjected, List.flatMap_map, Param.binding]

/-- The constructor's value uses its parameters. -/
theorem grounded_initCode (hspec : s.isInjected = true → ownName specField ∈ known)
    (hcaptured : ∀ p ∈ m.captured, chosenName p.name ∈ known) :
    Code.Grounded known (initCode s m) := by
  have hnames : ∀ n, ∀ p ∈ m.captured, n = chosenName p.name → n ∈ known :=
    fun _ p hp hn => hn ▸ hcaptured p hp
  unfold initCode
  split
  · simp
  · cases hinjected : s.isInjected with
    | false => simpa [newFields, hinjected, List.flatMap_map] using hnames
    | true => simpa [newFields, hinjected, List.flatMap_map, hspec hinjected] using hnames

theorem grounded_new : Code.Grounded [] (newCode s m) := by
  have hinit : Code.Grounded ((newParams s m).flatMap boundIn) (initCode s m) := by
    refine grounded_initCode (fun hinjected => ?_) fun p hp => ?_
    · simp [newParams, hinjected]
    · refine List.mem_flatMap.mpr ⟨bindingWords p.binding, List.mem_append_right _ ?_, ?_⟩
      · exact List.mem_map_of_mem hp
      · exact List.mem_singleton.mpr rfl
  have hused : ∀ ws ∈ newParams s m, usedIn ws = [] := by
    unfold newParams
    cases s.isInjected <;> simp
  simp [newCode, hinit, List.flatMap_eq_nil_iff.mpr hused]

/-! ## 2. Commands -/

/-- A command names itself if it has fields. -/
theorem this_mem_left (h : (CommandType.ofMethod s m).fields.isEmpty = false) :
    ownName "this" ∈ (thisCode s m).left := by
  simp [thisCode, h]

/-- A box is known behind the lines that fill it. -/
theorem box_mem_left {p : Param} (hp : p ∈ m.slots) : chosenName p.name ∈
    (Code.join (m.slots.map fun p => seedCode s.handles p.binding (slotWords p.name))).left := by
  refine Code.mem_left_join (List.mem_map_of_mem hp) ?_
  simp [seedCode, Param.binding]

theorem grounded_seedCode {p : Param} (h : ownName "state_container" ∈ known) :
    Code.Grounded known (seedCode s.handles p.binding (slotWords p.name)) := by
  simp [seedCode, slotWords, h]

theorem grounded_storeCode {box : String} (hbox : chosenName box ∈ known)
    (h : ownName "new_component" ∈ known) : Code.Grounded known (storeCode box) := by
  simp [storeCode, hbox, h]

theorem grounded_bodyCode (hself : ownName "self" ∈ known)
    (hslots : m.slots.isEmpty = false →
      ownName "state_container" ∈ known ∧ ownName "new_component" ∈ known) :
    Code.Grounded known (bodyCode s m) := by
  have hthis : Code.Grounded known (thisCode s m) := by
    unfold thisCode
    split <;> simp [hself]
  have hdowncast : Code.Grounded known (downcastCode s m) := by
    unfold downcastCode
    split
    · simp
    · next hsome =>
      obtain ⟨hcontainer, hcomponent⟩ := hslots (by simpa using hsome)
      simp [downcastWords, hcontainer, hcomponent]
  have hsome : ∀ p ∈ m.slots, m.slots.isEmpty = false := fun p hp =>
    List.isEmpty_eq_false_iff.mpr (List.ne_nil_of_mem hp)
  have hseeds : Code.Grounded known
      (.join (m.slots.map fun p => seedCode s.handles p.binding (slotWords p.name))) :=
    .join (List.forall_mem_map.mpr fun p hp => grounded_seedCode (hslots (hsome p hp)).1)
  have hcall : ∀ n ∈ usedIn (callWords s m), n ∈ (thisCode s m ++ downcastCode s m ++
      .join (m.slots.map fun p => seedCode s.handles p.binding (slotWords p.name))).left := by
    intro n hn
    simp only [Code.left_append, List.mem_append]
    rcases used_callWords hn with ⟨rfl, hfields⟩ | ⟨p, hp, rfl⟩
    · exact .inr (.inr (this_mem_left hfields))
    · exact .inl (box_mem_left hp)
  have hstores : Code.Grounded ((thisCode s m ++ downcastCode s m ++
      .join (m.slots.map fun p => seedCode s.handles p.binding (slotWords p.name)) ++
      .ofLine (callWords s m)).left ++ known)
        (.join (m.slots.map fun p => storeCode p.name)) := by
    refine .join (List.forall_mem_map.mpr fun p hp => grounded_storeCode ?_ ?_)
    · simp only [Code.left_append, List.mem_append]
      exact .inl (.inr (.inl (box_mem_left hp)))
    · exact List.mem_append_right _ (hslots (hsome p hp)).2
  unfold bodyCode
  simp only [Code.grounded_append, Code.grounded_ofLine, Code.grounded_ofText, and_true]
  refine ⟨⟨⟨⟨hthis, ?_⟩, ?_⟩, ?_⟩, hstores⟩
  · exact hdowncast.mono (List.subset_append_right _ _)
  · exact hseeds.mono (List.subset_append_right _ _)
  · exact fun n hn => List.mem_append_left _ (hcall n hn)

theorem grounded_applyCode : Code.Grounded [] (applyCode s m) := by
  have hbody : Code.Grounded [ownName ((if m.slots.isEmpty then "_" else "") ++ "new_component"),
      ownName ((if m.slots.isEmpty then "_" else "") ++ "state_container"), ownName "self"]
        (bodyCode s m) := by
    refine grounded_bodyCode (by simp) fun hslots => ?_
    rw [hslots]
    simp [ownName]
  simpa [applyCode, Code.grounded_group, Reach.beyond, Reach.into] using hbody

/-! ## 3. Lazy updaters and hooks -/

theorem grounded_lazyCode : Code.Grounded [] (lazyCode s f) := by
  simp [lazyCode, lazyParams, seedCode, closureCode, storeCode, downcastWords,
    EntryPoint.requestWords, Reach.into, Reach.beyond]

theorem grounded_copyCode : Code.Grounded [] (copyCode s) := by
  simp [copyCode]

theorem grounded_accessorCode : Code.Grounded [] (accessorCode s) := by
  simp [accessorCode]

theorem grounded_markerCode : Code.Grounded [] markerCode := by
  simp [markerCode]

theorem grounded_transferCode : Code.Grounded [] (transferCode s) := by
  have hfields : ∀ known, ownName "self" ∈ known → ownName "prev_state_container" ∈ known →
      Code.Grounded known (.join (s.fields.map transferFieldCode)) := by
    intro known hself hprev
    refine .join (List.forall_mem_map.mpr fun f _ => ?_)
    simp [transferFieldCode, hself, hprev]
  simp [transferCode, Code.grounded_group, Reach.beyond, Reach.into, hfields]

/-! ## 4. All functions -/

/-- **Every name is known where it is used**, in all that is synthesised. -/
theorem Spec.grounded_of_mem_codes {code : Code} (hcode : code ∈ s.codes) : code.Grounded [] :=
  s.forall_mem_codes (P := (·.Grounded [])) grounded_copyCode grounded_accessorCode
    grounded_markerCode grounded_transferCode
    (fun _ _ => ⟨grounded_entryPoint, grounded_maker, grounded_new, grounded_applyCode⟩)
    (fun _ _ => grounded_lazyCode) code hcode

/-- **No name of the spec is shadowed.**  In what is synthesised for a sound spec, each name that
the spec chose refers to what the spec has given it to, if no lazy field has the name of the first
parameter of the closure. -/
theorem Spec.WellFormed.refers (hs : s.WellFormed)
    (hlazy : ∀ f ∈ s.lazyFields, f.name ≠ "_state_container") {code : Code}
    (hcode : code ∈ s.codes) {use : Use} (huse : use ∈ code.uses [])
    (hspec : use.name.chooser = .spec) :
    use.known.find? (·.text = use.name.text) = some use.name := by
  have hclear : code.Clear := by
    rcases hs.clear_or_lazy hcode with hclear | ⟨f, hf, rfl⟩
    · exact hclear
    · exact (clear_lazyCode_iff (hs.lazy_free hf)).mpr (hlazy f hf)
  exact hclear.refers huse hspec (s.grounded_of_mem_codes hcode use huse)

end Carryover
