/-
# The names of what is synthesised

The check of a spec predicts which synthesised names would meet, without synthesising anything.
Here the names are read off the artifacts themselves, which are known one by one
(`Carryover.Proofs.Artifact.Inventory`):

* `functionNames_inherent`: the component's own functions are the entry points of all methods, then
  the constructors of all commands, then the lazy updaters;
* `functionNames_override`: the overrides are the accessor, the marker if it is wanted, and the
  transfer;
* `typeNames_artifacts`: the types are the container and the commands.

The check goes through the methods one by one, so it meets the same function names in another order
(`functionNames_perm`), which does not matter to whether they differ.
`noCollision_iff_artifacts_differ` is that the check reports a meeting exactly when two artifacts
of one kind would share a name, and that what is synthesised for a spec without defects never does.
-/
import Mathlib.Data.List.Perm.Basic
import Carryover.Proofs.Artifact.Inventory
import Carryover.Proofs.Model.WellFormed

namespace Carryover

/-! ## 1. Names of artifacts -/

/-- Every function has its name among those of its place. -/
theorem Artifacts.name_mem_functionNames {a : Artifacts} {f : FunctionArtifact}
    (h : f ∈ a.functions) : f.name ∈ a.functionNames f.placement := by
  unfold functionNames placed
  exact List.mem_map_of_mem (List.mem_filter.mpr ⟨h, decide_eq_true rfl⟩)

namespace Spec

variable {s : Spec}

/-- **The functions of the component**: entry points, constructors of commands, lazy updaters. -/
theorem functionNames_inherent (h : s.hasState = true) :
    s.artifacts.functionNames .inherent
      = (s.methods.flatMap fun m =>
          [entryPointName m.name .sync, entryPointName m.name .async]) ++
        (s.methods.map fun m => constructorName m.name) ++
        s.lazyFields.map fun f => lazyUpdaterName f.name := by
  unfold Artifacts.functionNames
  rw [(inventory_artifacts h).own]
  unfold ownFunctions
  simp only [List.map_append, List.map_flatMap, List.map_map]
  rfl

/-- **The overrides**: the accessor, the marker if it is wanted, and the transfer. -/
theorem functionNames_override (h : s.hasState = true) :
    s.artifacts.functionNames .override
      = ["state_container"] ++ (if s.wantsMarker then ["has_state"] else []) ++
        ["transfer_state"] := by
  unfold Artifacts.functionNames
  rw [(inventory_artifacts h).overrides]
  unfold overrides
  cases s.wantsMarker <;> rfl

/-- **The types**: the container and the commands. -/
theorem typeNames_artifacts (h : s.hasState = true) :
    s.artifacts.typeNames = s.containerName :: s.methods.map fun m => commandTypeName m.name := by
  unfold Artifacts.typeNames
  rw [(inventory_artifacts h).types, List.map_cons, List.map_map]
  rfl

/-- What is synthesised are the artifacts of a well-formed spec. -/
theorem synthesize_eq_ok_iff {s : Spec} {a : Artifacts} :
    s.synthesize = .ok a ↔ s.WellFormed ∧ s.artifacts = a := by
  unfold synthesize check
  rw [← defects_eq_nil_iff]
  cases s.defects with
  | nil => exact ⟨fun h => ⟨rfl, Except.ok.inj h⟩, fun h => congrArg Except.ok h.2⟩
  | cons d ds => exact ⟨nofun, fun h => absurd h.1 (List.cons_ne_nil d ds)⟩

end Spec

/-- A spec that the check accepts is synthesised. -/
theorem synthesize_of_check {s : Spec} (h : s.check = .ok ()) : s.synthesize = .ok s.artifacts :=
  Spec.synthesize_eq_ok_iff.mpr ⟨wellFormed_of_check h, rfl⟩

/-- A spec that the check refuses is not. -/
theorem synthesize_of_refused {s : Spec} {r : Rejection} (h : s.check = .error r) :
    s.synthesize = .error r := by
  unfold Spec.synthesize
  rw [h]
  rfl

/-! ## 2. Which defects are meetings of names -/

/-- Is the defect that a name would be synthesised twice? -/
def Defect.isNameCollision : Defect → Bool
  | .nameCollision .. => true
  | _ => false

/-- What is reported is the defect for which there is a reason. -/
theorem mem_reportIf {reason : Bool} {d e : Defect} :
    e ∈ reportIf reason d ↔ reason = true ∧ e = d := by
  cases reason <;> simp [reportIf]

/-- The defects of a field are others. -/
theorem Field.isNameCollision_of_mem {before : List Field} {f : Field} {d : Defect}
    (h : d ∈ f.defects before) : d.isNameCollision = false := by
  simp only [Field.defects, List.mem_append, mem_reportIf] at h
  rcases h with (⟨-, rfl⟩ | ⟨-, rfl⟩) | ⟨-, rfl⟩
  all_goals rfl

/-- The defects of a slot are others. -/
theorem Param.isNameCollision_of_mem_slotDefects {s : Spec} {method : String} {p : Param}
    {d : Defect} (h : d ∈ p.slotDefects s method) : d.isNameCollision = false := by
  unfold Param.slotDefects at h
  split at h
  · exact absurd h List.not_mem_nil
  · split at h
    · obtain rfl := List.mem_singleton.mp h
      rfl
    · obtain ⟨-, rfl⟩ := mem_reportIf.mp h
      rfl

/-- The defects of a parameter are others. -/
theorem Param.isNameCollision_of_mem {s : Spec} {method : String} {before : List Param}
    {p : Param} {d : Defect} (h : d ∈ p.defects s method before) :
    d.isNameCollision = false := by
  simp only [Param.defects, List.mem_append, mem_reportIf] at h
  rcases h with ((⟨-, rfl⟩ | ⟨-, rfl⟩) | ⟨-, rfl⟩) | h
  all_goals first | rfl | exact isNameCollision_of_mem_slotDefects h

/-- The defects of a type parameter are others. -/
theorem TypeParam.isNameCollision_of_mem {m : Method} {before : List TypeParam} {p : TypeParam}
    {d : Defect} (h : d ∈ p.defects m before) : d.isNameCollision = false := by
  simp only [TypeParam.defects, List.mem_append, mem_reportIf] at h
  rcases h with (⟨-, rfl⟩ | ⟨-, rfl⟩) | ⟨-, rfl⟩
  all_goals rfl

/-- The defects of a method on its own are others. -/
theorem Method.isNameCollision_of_mem {s : Spec} {m : Method} {d : Defect}
    (h : d ∈ m.defects s) : d.isNameCollision = false := by
  simp only [Method.defects, List.mem_append, List.mem_flatMap, mem_reportIf] at h
  rcases h with ((⟨-, rfl⟩ | ⟨e, -, he⟩) | ⟨e, -, he⟩) | ⟨p, -, hp⟩
  · rfl
  · exact Param.isNameCollision_of_mem he
  · exact TypeParam.isNameCollision_of_mem he
  · obtain ⟨-, rfl⟩ := mem_reportIf.mp hp
    rfl

/-- The defects of the synthesised names are all of this sort. -/
theorem Spec.isNameCollision_of_mem_nameDefects {s : Spec} {d : Defect}
    (h : d ∈ s.nameDefects) : d.isNameCollision = true := by
  unfold Spec.nameDefects at h
  split at h
  · obtain ⟨⟨before, p⟩, -, hd⟩ := List.mem_flatMap.mp h
    change d ∈ p.defects before at hd
    unfold Product.defects at hd
    split at hd
    · exact absurd hd List.not_mem_nil
    · obtain rfl := List.mem_singleton.mp hd
      rfl
  · exact absurd h List.not_mem_nil

/-- **The meetings among the defects of a spec are the defects of its synthesised names.** -/
theorem Spec.mem_nameDefects_iff {s : Spec} {d : Defect} :
    d ∈ s.nameDefects ↔ d ∈ s.defects ∧ d.isNameCollision = true := by
  constructor
  · intro h
    exact ⟨List.mem_append_right _ h, Spec.isNameCollision_of_mem_nameDefects h⟩
  · rintro ⟨h, hd⟩
    simp only [Spec.defects, List.mem_append, List.mem_flatMap, mem_reportIf] at h
    rcases h with ((((⟨-, rfl⟩ | ⟨-, rfl⟩) | ⟨e, -, he⟩) | ⟨m, -, hm⟩) | ⟨e, -, he⟩) | h
    · exact absurd hd nofun
    · exact absurd hd nofun
    · exact absurd hd (by rw [Field.isNameCollision_of_mem he]; exact nofun)
    · exact absurd hd (by rw [Method.isNameCollision_of_mem hm]; exact nofun)
    · obtain ⟨-, rfl⟩ := mem_reportIf.mp he
      exact absurd hd nofun
    · exact h

/-! ## 3. The check predicts the names -/

/-- The check meets the functions of the component in another order. -/
theorem Spec.functionNames_perm {s : Spec} (h : s.hasState = true) :
    (s.artifacts.functionNames .inherent).Perm s.functionNames := by
  rw [functionNames_inherent h]
  refine List.Perm.append_right _ ?_
  rw [List.map_eq_flatMap]
  exact s.methods.flatMap_append_perm _ _

/-- The overrides differ. -/
theorem Spec.nodup_functionNames_override {s : Spec} (h : s.hasState = true) :
    (s.artifacts.functionNames .override).Nodup := by
  rw [functionNames_override h]
  cases s.wantsMarker <;> decide

/-- **The check predicts exactly which synthesised names would meet.**  For a spec with state whose
methods and fields have names of their own, it reports no meeting when, in what is synthesised,
the component's functions differ and so do the types and the component.  So nothing that is
synthesised for a spec without defects shares its name with something of its kind. -/
theorem noCollision_iff_artifacts_differ (s : Spec) :
    (s.hasState = true → (s.methods.map (·.name)).Nodup → (s.fields.map (·.name)).Nodup →
      ((∀ d ∈ s.defects, d.isNameCollision = false) ↔
        (s.artifacts.functionNames .inherent).Nodup ∧
          (s.component :: s.artifacts.typeNames).Nodup)) ∧
    (∀ a, s.synthesize = .ok a →
      (∀ p, (a.functionNames p).Nodup) ∧ a.typeNames.Nodup ∧ s.component ∉ a.typeNames) := by
  have hpredict : s.hasState = true → (s.methods.map (·.name)).Nodup →
      (s.fields.map (·.name)).Nodup →
      ((∀ d ∈ s.defects, d.isNameCollision = false) ↔
        (s.artifacts.functionNames .inherent).Nodup ∧
          (s.component :: s.artifacts.typeNames).Nodup) := by
    intro hstate hmethods hfields
    have hne : s.fields ≠ [] := by simpa [Spec.hasState] using hstate
    have hnone : (∀ d ∈ s.defects, d.isNameCollision = false) ↔ s.nameDefects = [] := by
      simp only [List.eq_nil_iff_forall_not_mem, Spec.mem_nameDefects_iff, not_and,
        Bool.not_eq_true]
    rw [hnone, nameDefects_eq_nil_iff hfields hmethods, (Spec.functionNames_perm hstate).nodup_iff,
      Spec.typeNames_artifacts hstate]
    simp only [ne_eq, hne, not_false_eq_true, forall_const]
    rfl
  refine ⟨hpredict, ?_⟩
  intro a ha
  obtain ⟨hwell, rfl⟩ := Spec.synthesize_eq_ok_iff.mp ha
  cases hstate : s.hasState with
  | false =>
    rw [Spec.artifacts_of_stateless hstate]
    exact ⟨fun _ => List.nodup_nil, List.nodup_nil, List.not_mem_nil⟩
  | true =>
    have hnone : ∀ d ∈ s.defects, d.isNameCollision = false := by
      rw [defects_eq_nil_iff.mpr hwell]
      exact fun d hd => absurd hd List.not_mem_nil
    obtain ⟨hinherent, htypes⟩ :=
      (hpredict hstate hwell.methods_differ hwell.fields_differ).mp hnone
    obtain ⟨hcomponent, hdiffer⟩ := List.nodup_cons.mp htypes
    refine ⟨fun p => ?_, hdiffer, hcomponent⟩
    cases p with
    | override => exact Spec.nodup_functionNames_override hstate
    | inherent => exact hinherent

/-- A method is named like the other entry point of the method before it. -/
def asyncTwins : Spec :=
  { Spec.ofComponent "Counter" with
    fields := [⟨"count", "i32", true⟩]
    methods := [⟨"bump", [], []⟩, ⟨"bump_async", [], []⟩] }

/-- Two functions of the component would share a name, and the check says so. -/
theorem collision_of_asyncTwins :
    asyncTwins.hasState = true ∧ (asyncTwins.methods.map (·.name)).Nodup ∧
      (asyncTwins.fields.map (·.name)).Nodup ∧
      ¬ (asyncTwins.artifacts.functionNames .inherent).Nodup ∧
      ∃ d ∈ asyncTwins.defects, d.isNameCollision = true := by
  have hstate : asyncTwins.hasState = true := rfl
  have hmethods : (asyncTwins.methods.map (·.name)).Nodup := by decide
  have hfields : (asyncTwins.fields.map (·.name)).Nodup := by decide
  have htwice : ¬ (asyncTwins.artifacts.functionNames .inherent).Nodup := by
    rw [Spec.functionNames_inherent hstate]
    decide
  have hpredict := (noCollision_iff_artifacts_differ asyncTwins).1 hstate hmethods hfields
  refine ⟨hstate, hmethods, hfields, htwice, ?_⟩
  by_contra hnone
  have hall : ∀ d ∈ asyncTwins.defects, d.isNameCollision = false := by
    simpa using hnone
  exact htwice (hpredict.mp hall).1

end Carryover
