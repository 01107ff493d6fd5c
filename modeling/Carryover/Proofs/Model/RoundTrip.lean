/-
# A written spec is read as it was

`Spec.ofText_toText`: the text of a spec, whatever its names and types are made of, is read as the
spec again.

The text is that of a legible tree, so reading it comes to walking the tree (`Document.read_print`).
Each part of a spec then has two lemmas: its tree is legible, and the reader of the part, with room
enough for the lists and objects inside, finds the part in its tree.
-/
import Carryover.Model.Document
import Carryover.Proofs.Json.Walked
import Carryover.Proofs.Json.Written

namespace Carryover

open Json

/-! ## 1. Entries -/

section Entries

variable {δ α : Type} {key : String} {isRequired : Bool} {room : Nat} {draft : δ}

/-- A text is put into the draft. -/
theorem textEntry_set {get : δ → Option String} {put : δ → String → δ} (v : String) :
    (textEntry key isRequired get put).set room (.ofString v) draft = .ok (put draft v) := by
  unfold textEntry
  simp only [Tree.asText_ofString]
  rfl

/-- A truth value is put into the draft. -/
theorem boolEntry_set {get : δ → Option Bool} {put : δ → Bool → δ} (v : Bool) :
    (boolEntry key get put).set room (.bool v) draft = .ok (put draft v) :=
  rfl

/-- A value that is read is put into the draft. -/
theorem optionalEntry_set {read : Reader α} {get : δ → Option α} {put : δ → α → δ} {t : Tree}
    {v : α} (h : read room t = .ok v) :
    (optionalEntry key read get put).set room t draft = .ok (put draft v) := by
  unfold optionalEntry
  simp only [h]
  rfl

end Entries

/-! ## 2. The parts of a spec -/

/-- The tree of a field is legible. -/
theorem Field.legible_toTree (f : Field) : f.toTree.Legible := by
  refine Tree.legible_ofPairs ?_
  simp [Tree.legible_ofString, Tree.Legible]

/-- **A field is read.** -/
theorem Field.read_toTree (f : Field) {room : Nat} (hroom : 1 < room) :
    Field.read room f.toTree = .ok f := by
  have hshape : FieldDraft.shape.read ⟨none, none, none⟩ room f.toTree
      = .ok ⟨some f.name, some f.type, some f.isLazy⟩ := by
    unfold Field.toTree
    rw [Shape.read_ofPairs hroom, Shape.readMembers_cons rfl rfl (textEntry_set _),
      Shape.readMembers_cons rfl rfl (textEntry_set _),
      Shape.readMembers_cons rfl rfl (boolEntry_set _), Shape.readMembers_nil]
  unfold Field.read
  rw [hshape]
  rfl

/-- The tree of a type parameter is legible. -/
theorem TypeParam.legible_toTree (p : TypeParam) : p.toTree.Legible := by
  refine Tree.legible_ofPairs ?_
  simp [Tree.legible_ofString]

/-- **A type parameter is read.** -/
theorem TypeParam.read_toTree (p : TypeParam) {room : Nat} (hroom : 1 < room) :
    TypeParam.read room p.toTree = .ok p := by
  have hshape : TypeParamDraft.shape.read ⟨none, none⟩ room p.toTree
      = .ok ⟨some p.name, some p.bounds⟩ := by
    unfold TypeParam.toTree
    rw [Shape.read_ofPairs hroom, Shape.readMembers_cons rfl rfl (textEntry_set _),
      Shape.readMembers_cons rfl rfl (textEntry_set _), Shape.readMembers_nil]
  unfold TypeParam.read
  rw [hshape]
  rfl

/-- The tree of a parameter is legible. -/
theorem Param.legible_toTree (p : Param) : p.toTree.Legible := by
  refine Tree.legible_ofPairs ?_
  simp [Tree.legible_ofString]

/-- The kind of a role is read as the role. -/
theorem Role.read_kind (r : Role) : Role.read (.ofString r.kind) = .ok r := by
  unfold Role.read Tree.ofString Tree.found
  simp only [decode_encode]
  cases r <;> rfl

/-- **A parameter is read**: first its kind, then the members that were held. -/
theorem Param.read_toTree (p : Param) {room : Nat} (hroom : 1 < room) :
    Param.read room p.toTree = .ok p := by
  have hsplit : Param.splitMembers (room - 1) none
      (.ofPairs [("kind", .ofString p.role.kind), ("name", .ofString p.name),
        ("ty", .ofString p.type)])
      = .ok (some p.role, [("name", .text p.name), ("ty", .text p.type)]) := by
    unfold Members.ofPairs
    simp only [List.map_cons, Members.ofList, Param.splitMembers, decode_encode, Role.read_kind,
      Tree.hold_ofString]
    rfl
  unfold Param.read Param.toTree Tree.ofPairs
  simp only [enter_eq_ok hroom]
  show (Param.splitMembers (room - 1) none (.ofPairs _)).bind _ = _
  rw [hsplit]
  rfl

/-- The tree of a method is legible. -/
theorem Method.legible_toTree (m : Method) : m.toTree.Legible := by
  have htypeParams := Tree.legible_ofValues fun p (_ : p ∈ m.typeParams) => p.legible_toTree
  have hparams := Tree.legible_ofValues fun p (_ : p ∈ m.params) => p.legible_toTree
  refine Tree.legible_ofPairs ?_
  split
  case isTrue _ => simp [Tree.legible_ofString, hparams]
  case isFalse _ => simp [Tree.legible_ofString, hparams, htypeParams]

/-- **A method is read.**  A list of type parameters that was left out is the empty one. -/
theorem Method.read_toTree (m : Method) {room : Nat} (hroom : 3 < room) :
    Method.read room m.toTree = .ok m := by
  have hparams : readList Param.read (room - 1) (.ofValues Param.toTree m.params)
      = .ok m.params :=
    readList_ofValues (by omega) fun p _ => p.read_toTree (by omega)
  have htypeParams : readList TypeParam.read (room - 1) (.ofValues TypeParam.toTree m.typeParams)
      = .ok m.typeParams :=
    readList_ofValues (by omega) fun p _ => p.read_toTree (by omega)
  have hshape : ∃ typeParams?, typeParams?.getD [] = m.typeParams ∧
      MethodDraft.shape.read ⟨none, none, none⟩ room m.toTree
        = .ok ⟨some m.name, typeParams?, some m.params⟩ := by
    unfold Method.toTree
    rw [Shape.read_ofPairs (by omega)]
    split
    case isTrue hempty =>
      refine ⟨none, (List.isEmpty_iff.mp hempty).symm, ?_⟩
      show MethodDraft.shape.readMembers _ (.ofPairs [_, _]) _ = _
      rw [Shape.readMembers_cons rfl rfl (textEntry_set _),
        Shape.readMembers_cons rfl rfl (optionalEntry_set hparams), Shape.readMembers_nil]
    case isFalse _ =>
      refine ⟨some m.typeParams, rfl, ?_⟩
      show MethodDraft.shape.readMembers _ (.ofPairs [_, _, _]) _ = _
      rw [Shape.readMembers_cons rfl rfl (textEntry_set _),
        Shape.readMembers_cons rfl rfl (optionalEntry_set htypeParams),
        Shape.readMembers_cons rfl rfl (optionalEntry_set hparams), Shape.readMembers_nil]
  obtain ⟨typeParams?, htypes, hread⟩ := hshape
  unfold Method.read
  rw [hread]
  show Except.ok (Method.mk m.name (typeParams?.getD []) m.params) = _
  rw [htypes]

/-- The tree of handles is legible. -/
theorem Handles.legible_toTree (h : Handles) : h.toTree.Legible := by
  refine Tree.legible_ofPairs ?_
  simp [Tree.legible_ofString]

/-- **Handles are read.** -/
theorem Handles.read_toTree (h : Handles) {room : Nat} (hroom : 1 < room) :
    Handles.read room h.toTree = .ok h := by
  have hshape : HandlesDraft.shape.read ⟨none, none, none, none, none⟩ room h.toTree
      = .ok ⟨some h.context, some h.component, some h.container, some h.update,
        some h.runtime⟩ := by
    unfold Handles.toTree
    rw [Shape.read_ofPairs hroom, Shape.readMembers_cons rfl rfl (textEntry_set _),
      Shape.readMembers_cons rfl rfl (textEntry_set _),
      Shape.readMembers_cons rfl rfl (textEntry_set _),
      Shape.readMembers_cons rfl rfl (textEntry_set _),
      Shape.readMembers_cons rfl rfl (textEntry_set _), Shape.readMembers_nil]
  unfold Handles.read
  rw [hshape]
  rfl

/-! ## 3. Specs -/

/-- The tree of a spec is legible. -/
theorem Spec.legible_toTree (s : Spec) : s.toTree.Legible := by
  have hfields := Tree.legible_ofValues fun f (_ : f ∈ s.fields) => f.legible_toTree
  have hmethods := Tree.legible_ofValues fun m (_ : m ∈ s.methods) => m.legible_toTree
  refine Tree.legible_ofPairs ?_
  simp [Tree.legible_ofString, Tree.Legible, hfields, hmethods, Handles.legible_toTree]

/-- **A spec is read**: its lists and objects are nested five deep. -/
theorem Spec.read_toTree (s : Spec) {room : Nat} (hroom : 5 < room) :
    Spec.read room s.toTree = .ok s := by
  have hfields : readList Field.read (room - 1) (.ofValues Field.toTree s.fields)
      = .ok s.fields :=
    readList_ofValues (by omega) fun f _ => f.read_toTree (by omega)
  have hmethods : readList Method.read (room - 1) (.ofValues Method.toTree s.methods)
      = .ok s.methods :=
    readList_ofValues (by omega) fun m _ => m.read_toTree (by omega)
  have hhandles : Handles.read (room - 1) s.handles.toTree = .ok s.handles :=
    s.handles.read_toTree (by omega)
  have hshape : SpecDraft.shape.read ⟨none, none, none, none, none, none, none⟩ room s.toTree
      = .ok ⟨some s.path, some s.component, some s.fields, some s.methods, some s.handles,
        some s.isInjected, some s.wantsMarker⟩ := by
    unfold Spec.toTree
    rw [Shape.read_ofPairs (by omega), Shape.readMembers_cons rfl rfl (textEntry_set _),
      Shape.readMembers_cons rfl rfl (textEntry_set _),
      Shape.readMembers_cons rfl rfl (optionalEntry_set hfields),
      Shape.readMembers_cons rfl rfl (optionalEntry_set hmethods),
      Shape.readMembers_cons rfl rfl (optionalEntry_set hhandles),
      Shape.readMembers_cons rfl rfl (boolEntry_set _),
      Shape.readMembers_cons rfl rfl (boolEntry_set _), Shape.readMembers_nil]
  unfold Spec.read
  rw [hshape]
  rfl

/-- **Reading undoes writing.**  The text of any spec, with whatever characters its names and types
hold, however many fields, methods and parameters, and whatever handles and flags, is read as the
spec. -/
theorem Spec.ofText_toText (s : Spec) : Spec.ofText s.toText = .ok s := by
  have hsymbols : Symbol.ofText s.toText = symbols s.toTree.print := by
    unfold Symbol.ofText Spec.toText symbols
    rw [String.toList_ofList]
  have hread : Spec.read maxNesting s.toTree = .ok s := s.read_toTree (by decide)
  unfold Spec.ofText Spec.ofDocument Document.readAs
  rw [hsymbols, Document.read_print s.legible_toTree]
  show (Spec.read maxNesting s.toTree).bind _ = _
  rw [hread]
  rfl

end Carryover
