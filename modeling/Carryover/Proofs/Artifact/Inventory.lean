/-
# The inventory in order

A spec's artifacts are put together from six sets.  Two of them go through the methods, and one of
these makes a function and a type at each; another goes through the fields.  Without state all six are
empty (`Spec.artifacts_of_stateless`).

With state each set is known as a whole, its functions and its types.  `Spec.Inventory` says what they
come to together: which overrides there are, which functions of the component and which types, each
the artifact of its own method or field, in which order, and that there is nothing else.
`Spec.inventory_artifacts` is that the artifacts of every spec with state are that.  What is said of
artifacts elsewhere, of their names and of their sources, is read off it.
-/
import Carryover.Artifact.Inventory

namespace Carryover

open Source

/-! ## 1. Functions and types of sets of artifacts -/

namespace Artifacts

variable {a b : Artifacts} {sets : List Artifacts}

@[simp] theorem functions_empty : empty.functions = [] :=
  rfl

@[simp] theorem functions_ofFunction (f : FunctionArtifact) : (ofFunction f).functions = [f] :=
  rfl

@[simp] theorem functions_ofType (t : TypeArtifact) : (ofType t).functions = [] :=
  rfl

@[simp] theorem functions_append : (a ++ b).functions = a.functions ++ b.functions :=
  rfl

@[simp] theorem functions_concat : (concat sets).functions = sets.flatMap (·.functions) :=
  rfl

@[simp] theorem types_empty : empty.types = [] :=
  rfl

@[simp] theorem types_ofFunction (f : FunctionArtifact) : (ofFunction f).types = [] :=
  rfl

@[simp] theorem types_ofType (t : TypeArtifact) : (ofType t).types = [t] :=
  rfl

@[simp] theorem types_append : (a ++ b).types = a.types ++ b.types :=
  rfl

@[simp] theorem types_concat : (concat sets).types = sets.flatMap (·.types) :=
  rfl

end Artifacts

namespace Spec

variable {s : Spec}

/-- There is state where there is a field. -/
theorem hasState_eq_true_iff : s.hasState = true ↔ s.fields ≠ [] := by
  simp [hasState]

/-- There is no state where there is none. -/
theorem hasState_eq_false_iff : s.hasState = false ↔ s.fields = [] := by
  simp [hasState]

/-! ## 2. The sets -/

/-- The container comes with the accessor. -/
theorem containerArtifacts_eq (h : s.hasState = true) : s.containerArtifacts
    = ⟨[⟨"state_container", .override, renderLines 1 (accessorLines s)⟩],
        [(ContainerType.ofSpec s).artifact]⟩ :=
  if_pos h

/-- The marker is there if it is wanted. -/
theorem markerArtifacts_eq (h : s.hasState = true) : s.markerArtifacts
    = ⟨if s.wantsMarker then [⟨"has_state", .override, renderLines 1 markerLines⟩] else [], []⟩ := by
  unfold markerArtifacts
  rw [h, Bool.and_true]
  cases s.wantsMarker <;> rfl

theorem transferArtifacts_eq (h : s.hasState = true) : s.transferArtifacts
    = ⟨[⟨"transfer_state", .override, renderLines 1 (transferLines s)⟩], []⟩ :=
  if_pos h

/-- Every method has two entry points, side by side. -/
theorem entryPointArtifacts_eq (h : s.hasState = true) : s.entryPointArtifacts
    = ⟨s.methods.flatMap fun m =>
        [(EntryPoint.ofMethod s m .sync).artifact s, (EntryPoint.ofMethod s m .async).artifact s],
        []⟩ := by
  unfold entryPointArtifacts Artifacts.concat
  rw [if_pos h, List.flatMap_assoc, List.flatMap_assoc]
  exact congrArg _ (List.flatMap_eq_nil_iff.mpr fun _ _ => rfl)

/-- Every method has a command and the function that makes it.  All these functions stand in one
row, and so do the types. -/
theorem commandArtifacts_eq (h : s.hasState = true) : s.commandArtifacts
    = ⟨s.methods.map fun m => (CommandMaker.ofMethod s m).artifact,
        s.methods.map fun m => (CommandType.ofMethod s m).artifact s⟩ := by
  unfold commandArtifacts Artifacts.concat
  rw [if_pos h, List.flatMap_map, List.flatMap_map, List.map_eq_flatMap, List.map_eq_flatMap]
  rfl

/-- Every lazy field has its updater. -/
theorem lazyArtifacts_eq : s.lazyArtifacts
    = ⟨s.lazyFields.map fun f => (LazyUpdater.ofField f).artifact s, []⟩ := by
  unfold lazyArtifacts Artifacts.concat
  rw [List.flatMap_map, List.flatMap_map, List.map_eq_flatMap]
  exact congrArg _ (List.flatMap_eq_nil_iff.mpr fun _ _ => rfl)

/-! ## 3. The whole -/

/-- Without state nothing is synthesised. -/
theorem artifacts_of_stateless (h : s.hasState = false) : s.artifacts = .empty := by
  have hfields : s.fields = [] := hasState_eq_false_iff.mp h
  unfold artifacts containerArtifacts markerArtifacts transferArtifacts entryPointArtifacts
    commandArtifacts lazyArtifacts lazyFields
  simp [h, hfields, Artifacts.concat, Artifacts.empty]

/-- The overrides of a component with state: the accessor, the marker if it is wanted, and the
transfer. -/
def overrides (s : Spec) : List FunctionArtifact :=
  [⟨"state_container", .override, renderLines 1 (accessorLines s)⟩] ++
  (if s.wantsMarker then [⟨"has_state", .override, renderLines 1 markerLines⟩] else []) ++
  [⟨"transfer_state", .override, renderLines 1 (transferLines s)⟩]

/-- Its other functions: the entry points of all methods, then the functions that make their commands,
then the lazy updaters. -/
def ownFunctions (s : Spec) : List FunctionArtifact :=
  (s.methods.flatMap fun m =>
    [(EntryPoint.ofMethod s m .sync).artifact s, (EntryPoint.ofMethod s m .async).artifact s]) ++
  (s.methods.map fun m => (CommandMaker.ofMethod s m).artifact) ++
  s.lazyFields.map fun f => (LazyUpdater.ofField f).artifact s

/-- **Everything that there is for a spec with state, in the order of the contract.** -/
structure Inventory (s : Spec) (a : Artifacts) : Prop where
  overrides : a.placed .override = s.overrides
  own : a.placed .inherent = s.ownFunctions
  /-- There are no functions beside these, and the overrides come first. -/
  functions : a.functions = s.overrides ++ s.ownFunctions
  types : a.types = (ContainerType.ofSpec s).artifact ::
    s.methods.map fun m => (CommandType.ofMethod s m).artifact s

theorem placement_overrides {f : FunctionArtifact} (h : f ∈ s.overrides) :
    f.placement = .override := by
  unfold overrides at h
  simp only [List.mem_append, List.mem_singleton, List.mem_ite_nil_right] at h
  rcases h with (rfl | ⟨-, rfl⟩) | rfl
  all_goals rfl

theorem placement_ownFunctions {f : FunctionArtifact} (h : f ∈ s.ownFunctions) :
    f.placement = .inherent := by
  unfold ownFunctions at h
  simp only [List.mem_append, List.mem_flatMap, List.mem_map, List.mem_cons, List.not_mem_nil,
    or_false] at h
  rcases h with (⟨m, -, rfl | rfl⟩ | ⟨m, -, rfl⟩) | ⟨f, -, rfl⟩
  all_goals rfl

/-- **The artifacts of a spec with state are the inventory.** -/
theorem inventory_artifacts (h : s.hasState = true) : s.Inventory s.artifacts := by
  have hfunctions : s.artifacts.functions = s.overrides ++ s.ownFunctions := by
    simp only [artifacts, overrides, ownFunctions, Artifacts.functions_concat, List.flatMap_cons,
      List.flatMap_nil, containerArtifacts_eq h, markerArtifacts_eq h, transferArtifacts_eq h,
      entryPointArtifacts_eq h, commandArtifacts_eq h, lazyArtifacts_eq, List.append_assoc,
      List.append_nil]
  have htypes : s.artifacts.types = (ContainerType.ofSpec s).artifact ::
      s.methods.map fun m => (CommandType.ofMethod s m).artifact s := by
    simp only [artifacts, Artifacts.types_concat, List.flatMap_cons, List.flatMap_nil,
      containerArtifacts_eq h, markerArtifacts_eq h, transferArtifacts_eq h,
      entryPointArtifacts_eq h, commandArtifacts_eq h, lazyArtifacts_eq, List.append_nil,
      List.nil_append, List.singleton_append]
  refine ⟨?_, ?_, hfunctions, htypes⟩
  · show s.artifacts.functions.filter _ = _
    rw [hfunctions, List.filter_append,
      List.filter_eq_self.mpr fun f hf => by simp [placement_overrides hf],
      List.filter_eq_nil_iff.mpr fun f hf => by simp [placement_ownFunctions hf], List.append_nil]
  · show s.artifacts.functions.filter _ = _
    rw [hfunctions, List.filter_append,
      List.filter_eq_nil_iff.mpr fun f hf => by simp [placement_overrides hf],
      List.filter_eq_self.mpr fun f hf => by simp [placement_ownFunctions hf], List.nil_append]

/-- The artifacts of a method are among those of its spec. -/
theorem mem_artifacts (h : s.hasState = true) {m : Method} (hm : m ∈ s.methods) :
    (∀ timing, (EntryPoint.ofMethod s m timing).artifact s ∈ s.artifacts.functions) ∧
      (CommandMaker.ofMethod s m).artifact ∈ s.artifacts.functions ∧
      (CommandType.ofMethod s m).artifact s ∈ s.artifacts.types := by
  have hinventory := inventory_artifacts h
  have hfunction : ∀ f ∈ s.ownFunctions, f ∈ s.artifacts.functions := fun f hf => by
    rw [hinventory.functions]
    exact List.mem_append_right _ hf
  refine ⟨fun timing => hfunction _ ?_, hfunction _ ?_, ?_⟩
  · refine List.mem_append_left _ (List.mem_append_left _ (List.mem_flatMap.mpr ⟨m, hm, ?_⟩))
    cases timing <;> simp
  · exact List.mem_append_left _ (List.mem_append_right _ (List.mem_map_of_mem hm))
  · rw [hinventory.types]
    exact List.mem_cons_of_mem _ (List.mem_map_of_mem hm)

/-! ## 4. Counting -/

namespace Inventory

variable {a : Artifacts}

/-- Every method has three functions, every lazy field one, and the state two or three. -/
theorem length_functions (h : s.Inventory a) : a.functions.length
    = 2 + (if s.wantsMarker then 1 else 0) + 3 * s.methods.length + s.lazyFields.length := by
  have hentry : (s.methods.flatMap fun m => [(EntryPoint.ofMethod s m .sync).artifact s,
      (EntryPoint.ofMethod s m .async).artifact s]).length = s.methods.length * 2 := by
    simp only [List.length_flatMap, List.length_cons, List.length_nil, List.map_const',
      List.sum_replicate_nat]
  have hown : s.ownFunctions.length = 3 * s.methods.length + s.lazyFields.length := by
    unfold ownFunctions
    simp only [List.length_append, hentry, List.length_map]
    omega
  rw [h.functions, List.length_append, hown]
  unfold Spec.overrides
  cases s.wantsMarker <;>
    simp only [List.length_append, List.length_cons, List.length_nil, if_true, Bool.false_eq_true,
      if_false] <;> omega

/-- Every method has a type, and the state has one. -/
theorem length_types (h : s.Inventory a) : a.types.length = 1 + s.methods.length := by
  rw [h.types, List.length_cons, List.length_map, Nat.add_comm]

end Inventory

end Spec

end Carryover
