/-
# What a command stores

A command has a field for each captured parameter of its method, behind one for the instance if the
spec is one.  Its declaration and its two implementations have to name it with the same type
parameters.  One branch does not look as if they did: a command without fields is declared bare, while
the headers of its implementations have all type parameters.

What makes it right is a rule of the check.  Every type parameter of a method is a word of a captured
parameter's type, so there is a field for it (`Method.WellFormed.consistent_ofMethod`), and where there
is no field there is no type parameter.  So the bare declaration is no exception
(`CommandType.Consistent.exists_typeLines`).
-/
import Carryover.Proofs.Artifact.Forwarding
import Carryover.Proofs.Artifact.Names

namespace Carryover

open Source

/-! ## 1. Commands that are consistent -/

/-- **The parts of a command agree**: its fields, the parameters of its constructor, its slots and its
type parameters. -/
structure CommandType.Consistent (c : CommandType) : Prop where
  members_differ : (c.fields.map (·.member)).Nodup
  params_differ : (c.fields.map (·.param)).Nodup
  members_free : ∀ f ∈ c.fields, ∀ b ∈ c.slots, f.member ≠ b.name
  typeParams_used : ∀ p ∈ c.typeParams, ∃ f ∈ c.fields, Text.HasWord f.type p.name

/-- The declaration of a command with all its type parameters, also if there are no fields. -/
def CommandType.declarationLines (c : CommandType) : List Line :=
  if c.fields = [] then line ("struct " ++ c.name ++ genericParams c.typeParams ++ ";")
  else
    block ("struct " ++ c.name ++ genericParams c.typeParams)
      (c.fields.flatMap fun f => line (f.member ++ ": " ++ f.type ++ ","))

/-- **A command is named alike in all of its source**: the declaration, the constructor's
implementation and the implementation that applies it have all its type parameters. -/
def CommandType.NamedAlike (s : Spec) (c : CommandType) (source : String) : Prop :=
  ∃ shown made applied, source = renderLines 0 (shown ++ c.declarationLines ++
    blank ++
    block ("impl" ++ genericParams c.typeParams ++ " " ++ (c.name ++ genericArgs c.typeParams))
      (block ("fn new(" ++ commaList (c.fields.map fun f => f.param ++ ": " ++ f.type) ++
        ") -> Self") made) ++
    blank ++
    block ("impl" ++ genericParams c.typeParams ++ " " ++ s.handles.update ++ " for " ++
      (c.name ++ genericArgs c.typeParams)) applied)

/-- The implementation that applies a command is a block. -/
theorem CommandType.exists_applyLines (s : Spec) (c : CommandType) :
    ∃ applied, c.applyLines s = block ("impl" ++ genericParams c.typeParams ++ " " ++
      s.handles.update ++ " for " ++ (c.name ++ genericArgs c.typeParams)) applied :=
  ⟨_, rfl⟩

namespace CommandType.Consistent

variable {c : CommandType}

/-- A command without fields has no type parameters. -/
theorem typeParams_eq_nil (h : c.Consistent) (hbare : c.fields = []) : c.typeParams = [] := by
  refine List.eq_nil_iff_forall_not_mem.mpr fun p hp => ?_
  obtain ⟨f, hf, -⟩ := h.typeParams_used p hp
  rw [hbare] at hf
  exact List.not_mem_nil hf

/-- So the bare declaration has all type parameters too. -/
theorem exists_typeLines (h : c.Consistent) :
    ∃ shown, c.typeLines = shown ++ c.declarationLines := by
  refine ⟨doc ("Deferred call to `" ++ c.target ++
    "`, replayed against the state current at apply time."), ?_⟩
  unfold typeLines declarationLines
  simp only [List.isEmpty_iff]
  by_cases hbare : c.fields = []
  · have hparams : genericParams c.typeParams = "" := by
      rw [h.typeParams_eq_nil hbare]
      rfl
    rw [if_pos hbare, if_pos hbare, hparams, String.append_empty]
  · rw [if_neg hbare, if_neg hbare]

/-- **A consistent command is named alike in its source.** -/
theorem namedAlike (h : c.Consistent) (s : Spec) : c.NamedAlike s (c.artifact s).source := by
  obtain ⟨shown, hshown⟩ := h.exists_typeLines
  obtain ⟨applied, happlied⟩ := c.exists_applyLines s
  refine ⟨shown, line c.initText, applied, ?_⟩
  show renderLines 0 (c.typeLines ++ blank ++ c.newLines ++ blank ++ c.applyLines s) = _
  rw [hshown, happlied]
  rfl

end CommandType.Consistent

/-! ## 2. Methods of sound specs -/

variable {s : Spec} {m : Method}

/-- A command has no fields when there is nothing to store. -/
theorem Spec.fields_eq_nil_iff :
    (CommandType.ofMethod s m).fields = [] ↔ m.StoresNothing s := by
  rw [← s.fields_isEmpty_iff m, List.isEmpty_iff]

/-- The fields of a command are the one for the instance and those for the captured parameters. -/
theorem Spec.mem_fields {f : StorageField} (h : f ∈ (CommandType.ofMethod s m).fields) :
    f.member = "spec" ∨ ∃ p ∈ m.captured, f.member = "m_" ++ p.name := by
  have hmember := List.mem_map_of_mem h (f := StorageField.member)
  rw [map_member_fields] at hmember
  rcases List.mem_append.mp hmember with hspec | hcaptured
  · exact .inl (eq_of_mem_before hspec)
  · obtain ⟨name, hname, hstored⟩ := List.mem_map.mp hcaptured
    obtain ⟨p, hp, rfl⟩ := List.mem_map.mp hname
    exact .inr ⟨p, hp, hstored.symm⟩

/-- **The command of a well-formed method is consistent.** -/
theorem Method.WellFormed.consistent_ofMethod (h : m.WellFormed s) :
    (CommandType.ofMethod s m).Consistent where
  members_differ := by
    rw [Spec.map_member_fields]
    exact Spec.nodup_members (Spec.nodup_captured h.params_differ h.params_free)
  params_differ := by
    rw [Spec.map_param_fields]
    exact Spec.nodup_captured h.params_differ h.params_free
  members_free := by
    intro f hf b hb hname
    obtain ⟨p, hp, rfl⟩ := List.mem_map.mp hb
    rcases Spec.mem_fields hf with hspec | ⟨q, hq, hstored⟩
    -- No slot can have the instance's name, which is reserved.
    · have hreserved : p.name = "spec" := hname.symm.trans hspec
      exact h.params_free p (List.mem_of_mem_filter hp) (by rw [hreserved]; decide)
    · exact h.members_free q hq p hp (hstored.symm.trans hname)
  typeParams_used := by
    intro p hp
    obtain ⟨q, hq, hword⟩ := h.typeParams_used p hp
    exact ⟨_, List.mem_append_right _ (List.mem_map_of_mem hq), hword⟩

/-! ## 3. Specs that are accepted -/

/-- **The command of every method is consistent** if its spec is accepted.  The command is declared
without fields if there is nothing to store and only then, and in this case its method has no type
parameters.  With state the command is synthesised, and its declaration and its implementations name it
with the same type parameters. -/
theorem commands_consistent (h : s.check = .ok ()) (hm : m ∈ s.methods) :
    (CommandType.ofMethod s m).Consistent ∧
    ((CommandType.ofMethod s m).fields = [] ↔ m.captured = [] ∧ s.isInjected = false) ∧
    (m.captured = [] ∧ s.isInjected = false → m.typeParams = []) ∧
    (s.hasState = true → ∃ a source, s.synthesize = .ok a ∧
      ⟨commandTypeName m.name, source⟩ ∈ a.types ∧
      (CommandType.ofMethod s m).NamedAlike s source) := by
  have hwell := wellFormed_of_check h
  have hconsistent := (hwell.methods_wellFormed m hm).consistent_ofMethod
  have hfields : (CommandType.ofMethod s m).fields = [] ↔ m.captured = [] ∧ s.isInjected = false :=
    Spec.fields_eq_nil_iff.trans and_comm
  refine ⟨hconsistent, hfields, fun hnothing => ?_, fun hstate => ?_⟩
  · exact hconsistent.typeParams_eq_nil (hfields.mpr hnothing)
  · exact ⟨s.artifacts, _, synthesize_of_check h,
      (Spec.mem_artifacts hstate hm).2.2, hconsistent.namedAlike s⟩

/-- A method that stores nothing. -/
def resetCount : Method :=
  ⟨"reset", [], [⟨.slot, "count", "i32"⟩]⟩

/-- A counter with this method beside one that has a type parameter. -/
def boundedCounter : Spec :=
  { Spec.ofComponent "Counter" with
    fields := [⟨"count", "i32", false⟩]
    methods := [raiseTo, resetCount] }

/-- The type parameter is used by a field, and the command of the other method is declared bare. -/
theorem consistent_boundedCounter :
    boundedCounter.check = .ok () ∧
      (∃ f ∈ (CommandType.ofMethod boundedCounter raiseTo).fields, Text.HasWord f.type "T") ∧
      (CommandType.ofMethod boundedCounter resetCount).fields = [] ∧
      ∃ a source, boundedCounter.synthesize = .ok a ∧ ⟨"RaiseStateUpdate", source⟩ ∈ a.types ∧
        (CommandType.ofMethod boundedCounter raiseTo).NamedAlike boundedCounter source := by
  have hchecked : boundedCounter.check = .ok () := Spec.check_eq_ok_iff.mpr (by decide)
  have hname : commandTypeName "raise" = "RaiseStateUpdate" := by decide +kernel
  obtain ⟨hraise, -, -, hsource⟩ := commands_consistent hchecked (m := raiseTo) (by decide)
  obtain ⟨-, hreset, -, -⟩ := commands_consistent hchecked (m := resetCount) (by decide)
  refine ⟨hchecked, hraise.typeParams_used ⟨"T", "Into<i32>"⟩ (by decide),
    hreset.mpr ⟨rfl, rfl⟩, ?_⟩
  rw [← hname]
  exact hsource rfl

end Carryover
