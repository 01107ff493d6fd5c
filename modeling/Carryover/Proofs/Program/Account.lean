/-
# What the account of a module counts

Once the module of a spec is in place there is an account of it.  It counts the fields and methods of
the spec, and the functions and types that were generated.  The latter follow from the former
(`counts_ofSpec`), because the artifacts are the inventory of `Carryover.Proofs.Artifact.Inventory`:
every method has three functions and a type, every lazy field a function, and the state itself a type
and two overrides, or three with the marker.

`inventory_of_check` says both, what is generated and what is counted, for every spec that the check
accepts.
-/
import Carryover.Proofs.Artifact.Inventory
import Carryover.Proofs.Program.Verdicts

namespace Carryover.Program

open Files

variable {base : List String}

/-! ## 1. Accounts -/

/-- **What the account of a module counts**, in terms of the spec alone. -/
structure Generation.Counts (g : Generation base) (s : Spec) : Prop where
  fields : g.fields = s.fields.length
  methods : g.methods = s.methods.length
  lazyFields : g.lazyFields = s.lazyFields.length
  functions : s.fields ≠ [] →
    g.functions = 2 + (if s.wantsMarker then 1 else 0) + 3 * g.methods + g.lazyFields
  types : s.fields ≠ [] → g.types = 1 + g.methods
  stateless : s.fields = [] → g.lazyFields = 0 ∧ g.functions = 0 ∧ g.types = 0

/-- The account of a spec's artifacts counts what its fields and methods come to. -/
theorem counts_ofSpec (s : Spec) (out : Path) (written : Option (Location base)) :
    (Generation.ofSpec s s.artifacts out written).Counts s := by
  have hinventory : s.fields ≠ [] → s.Inventory s.artifacts := fun h =>
    Spec.inventory_artifacts (Spec.hasState_eq_true_iff.mpr h)
  refine ⟨rfl, rfl, rfl, fun h => (hinventory h).length_functions,
    fun h => (hinventory h).length_types, fun h => ?_⟩
  have hempty : s.artifacts = .empty :=
    Spec.artifacts_of_stateless (Spec.hasState_eq_false_iff.mpr h)
  have hlazy : s.lazyFields = [] := by
    unfold Spec.lazyFields
    rw [h]
    rfl
  show s.lazyFields.length = 0 ∧ s.artifacts.functions.length = 0 ∧ s.artifacts.types.length = 0
  rw [hempty, hlazy]
  exact ⟨rfl, rfl, rfl⟩

/-! ## 2. What is generated -/

/-- **What is generated for an accepted spec.**  Without fields that is nothing, even if there are
methods; with fields it is the inventory.  A module that can be saved is accounted for, and the
account counts exactly this. -/
theorem inventory_of_check {s : Spec} (h : s.check = .ok ()) :
    ∃ a, s.synthesize = .ok a ∧ (s.fields = [] → a = .empty) ∧ (s.fields ≠ [] → s.Inventory a) ∧
      ∀ {base : List String} (out : Path) (t : Tree base), match (t.save (moduleFile out s) (s.moduleText a)).2 with
        | .error e => (generateInto out s t).2.2 = .error (.unsaved e)
        | .ok _ => ∃ g, (generateInto out s t).2.2 = .ok g ∧
            g.functions = a.functions.length ∧ g.types = a.types.length ∧ g.Counts s := by
  have hsynthesize := synthesize_of_check h
  refine ⟨s.artifacts, hsynthesize, fun hnone => ?_, fun hsome => ?_, fun out t => ?_⟩
  · exact Spec.artifacts_of_stateless (Spec.hasState_eq_false_iff.mpr hnone)
  · exact Spec.inventory_artifacts (Spec.hasState_eq_true_iff.mpr hsome)
  · unfold generateInto
    simp only [hsynthesize]
    rcases t.save (moduleFile out s) (s.moduleText s.artifacts) with ⟨u, e | written⟩
    · rfl
    · exact ⟨_, rfl, rfl, rfl, counts_ofSpec s out written⟩

/-- A counter that is reset, raised and overwritten, without the marker. -/
def raisedCounter : Spec :=
  { Spec.ofComponent "Counter" with
    fields := [⟨"count", "i32", true⟩, ⟨"limit", "i32", false⟩]
    methods := [⟨"reset", [], [⟨.slot, "count", "i32"⟩]⟩,
      ⟨"raise", [], [⟨.captured, "delta", "i32"⟩, ⟨.slot, "count", "i32"⟩]⟩]
    wantsMarker := false }

theorem check_raisedCounter : raisedCounter.check = .ok () :=
  check_of_wellFormed (defects_eq_nil_iff.mp (by decide))

/-- Its module can be saved where nothing is yet. -/
theorem save_raisedCounter :
    ((Tree.empty : Tree).save (moduleFile ⟨"out"⟩ raisedCounter)
      (raisedCounter.moduleText raisedCounter.artifacts)).2
        = .ok (some (.inside ["out", "counter_state.rs"])) := by
  decide +kernel

/-- Two overrides, seven functions of its own and three types, which is what the account says. -/
theorem inventory_of_raisedCounter :
    raisedCounter.check = .ok () ∧ ∃ a, raisedCounter.synthesize = .ok a ∧
      a.functionNames .override = ["state_container", "transfer_state"] ∧
      a.functionNames .inherent = ["reset", "reset_async", "raise", "raise_async",
        "create_reset_state_update", "create_raise_state_update", "lazy_update_count"] ∧
      ∃ g, (generateInto ⟨"out"⟩ raisedCounter (.empty : Tree)).2.2 = .ok g ∧ g.functions = 9 ∧
        g.types = 3 := by
  obtain ⟨a, hsynthesize, -, hsome, hsaved⟩ := inventory_of_check check_raisedCounter
  have hfields : raisedCounter.fields ≠ [] := List.cons_ne_nil _ _
  obtain ⟨hoverrides, hown, -, -⟩ := hsome hfields
  obtain rfl := Except.ok.inj ((synthesize_of_check check_raisedCounter).symm.trans hsynthesize)
  have hreport := hsaved ⟨"out"⟩ (.empty : Tree)
  rw [save_raisedCounter] at hreport
  obtain ⟨g, hg, -, -, hcounts⟩ := hreport
  refine ⟨check_raisedCounter, _, hsynthesize, ?_, ?_, g, hg, ?_, ?_⟩
  · unfold Artifacts.functionNames
    rw [hoverrides]
    rfl
  · unfold Artifacts.functionNames
    rw [hown]
    rfl
  · rw [hcounts.functions hfields, hcounts.methods, hcounts.lazyFields]
    rfl
  · rw [hcounts.types hfields, hcounts.methods]
    rfl

end Carryover.Program
