/-
# Where captured parameters are listed

An argument of a method is on its way through four functions: the entry point, the component's
constructor of the command, the command's own constructor, and the function that applies the command.
Each of them lists the captured parameters, once as its own and once as what it hands on, and the
command has a field for each.

`Spec.Lists` has these lists as they stand in the sources, text for text.  All enumerate the captured
parameters in the order of declaration, and the call of the method has one argument for each
parameter.  `Spec.lists` is that the sources of every method have them.
-/
import Carryover.Proofs.Artifact.Code
import Carryover.Proofs.Source.Rendered

namespace Carryover

open Source

/-! ## 1. The lists in the sources -/

/-- The captured parameters as they are declared. -/
def Method.declared (m : Method) : List String :=
  m.captured.map fun p => p.name ++ ": " ++ p.type

/-- What comes before the captured parameters if the spec is an instance, and nothing if not. -/
def Spec.before {α : Type} (s : Spec) (first : α) : List α :=
  if s.isInjected then [first] else []

/-- The type of the instance. -/
def Spec.instanceType (s : Spec) : String :=
  "::std::sync::Arc<" ++ s.path ++ ">"

/-- Is there nothing that a command of the method would store? -/
def Method.StoresNothing (m : Method) (s : Spec) : Prop :=
  s.isInjected = false ∧ m.captured = []

instance (m : Method) (s : Spec) : Decidable (m.StoresNothing s) :=
  inferInstanceAs (Decidable (_ ∧ _))

/-- **What the sources list** of a method's two entry points, of the component's constructor of its
command, and of the command. -/
structure Spec.Lists (s : Spec) (m : Method) (entry : Timing → String) (maker command : String) :
    Prop where
  /-- The parameters of an entry point are the context and the captured ones. -/
  entryParams : ∀ timing, Stands (indent (line (opening (
    "pub fn " ++ entryPointName m.name timing ++ genericParams m.typeParams ++
      "(" ++ commaList (("c: &" ++ s.handles.context) :: m.declared) ++ ")")))) (entry timing)
  /-- The captured ones are handed to the component's constructor of the command. -/
  entryArguments : ∀ timing, Stands (indent (indent (line (
    "let state_update = component." ++ constructorName m.name ++
      "(" ++ commaList (m.captured.map (·.name)) ++ ");")))) (entry timing)
  /-- This one has them as parameters and hands them, behind the instance, to the command's own
  constructor. -/
  maker : Stands (indent (block
    ("fn " ++ constructorName m.name ++ genericParams m.typeParams ++
      "(" ++ commaList ("&self" :: m.declared) ++ ") -> " ++
      commandTypeName m.name ++ genericArgs m.typeParams)
    (line (commandTypeName m.name ++ "::new(" ++
      commaList (s.before "::std::sync::Arc::clone(&self.spec)" ++ m.captured.map (·.name)) ++
      ")")))) maker
  /-- The command has a field for each, behind the instance. -/
  fields : Stands
    (if m.StoresNothing s then line ("struct " ++ commandTypeName m.name ++ ";")
    else block ("struct " ++ commandTypeName m.name ++ genericParams m.typeParams)
      ((s.before ("spec: " ++ s.instanceType ++ ",") ++
        m.captured.map fun p => "m_" ++ p.name ++ ": " ++ p.type ++ ",").flatMap line)) command
  /-- The command's own constructor has them as parameters, and sets each field from its parameter. -/
  constructor : Stands (block
    ("impl" ++ genericParams m.typeParams ++ " " ++
      (commandTypeName m.name ++ genericArgs m.typeParams))
    (block
      ("fn new(" ++ commaList (s.before ("spec: " ++ s.instanceType) ++ m.declared) ++ ") -> Self")
      (line (if m.StoresNothing s then "Self"
        else "Self \x7b " ++
          commaList (s.before "spec" ++ m.captured.map fun p => "m_" ++ p.name ++ ": " ++ p.name) ++
          " \x7d")))) command
  /-- The method is called with one argument for each parameter. -/
  call : Stands (indent (indent (line (
    (if s.isInjected then "this.spec." else s.path ++ "::") ++ m.name ++
      "(" ++ commaList (m.params.map fun p => match p.role with
        | .captured => "this.m_" ++ p.name
        | .slot => "&mut " ++ p.name) ++ ");")))) command

/-- Captured parameters are declared as bindings. -/
theorem Method.map_text_captured (m : Method) :
    (m.captured.map (·.binding)).map (·.text) = m.declared :=
  List.map_map

namespace Spec

variable (s : Spec) (m : Method)

/-- What is made of the fields of a command. -/
theorem map_fields {α : Type} (g : StorageField → α) : (CommandType.ofMethod s m).fields.map g
    = s.before (g ⟨"spec", "spec", s.instanceType⟩) ++
      m.captured.map fun p => g ⟨"m_" ++ p.name, p.name, p.type⟩ := by
  show (CommandType.specFields s ++ m.captured.map CommandType.capturedField).map g = _
  rw [List.map_append, List.map_map]
  unfold CommandType.specFields before
  cases s.isInjected <;> rfl

theorem fields_isEmpty_iff :
    (CommandType.ofMethod s m).fields.isEmpty = true ↔ m.StoresNothing s := by
  rw [List.isEmpty_iff, ← List.map_eq_nil_iff (f := id), map_fields]
  unfold Method.StoresNothing before
  cases s.isInjected <;> simp

/-- The function of an entry point stands behind its documentation. -/
theorem block_infix_lines (timing : Timing) :
    block ((EntryPoint.ofMethod s m timing).header s)
      (EntryPoint.scopeLines s "component" ++
        line ("let state_update = component." ++ constructorName m.name ++ "(" ++
          commaList (m.captured.map (·.name)) ++ ");") ++
        line ("c." ++ EntryPoint.dispatchName timing ++ "(" ++ boxType ++ "::new(state_update));"))
      <:+: (EntryPoint.ofMethod s m timing).lines s :=
  (List.suffix_append _ _).isInfix

/-- The declaration of a command stands behind its documentation. -/
theorem infix_typeLines :
    (if m.StoresNothing s then line ("struct " ++ commandTypeName m.name ++ ";")
    else block ("struct " ++ commandTypeName m.name ++ genericParams m.typeParams)
      ((s.before ("spec: " ++ s.instanceType ++ ",") ++
        m.captured.map fun p => "m_" ++ p.name ++ ": " ++ p.type ++ ",").flatMap line))
      <:+: (CommandType.ofMethod s m).typeLines := by
  have hfields : ((CommandType.ofMethod s m).fields.map fun f => f.member ++ ": " ++ f.type ++ ",")
      = s.before ("spec: " ++ s.instanceType ++ ",") ++
        m.captured.map fun p => "m_" ++ p.name ++ ": " ++ p.type ++ "," := s.map_fields m _
  unfold CommandType.typeLines
  rw [← hfields, List.flatMap_map]
  simp only [← s.fields_isEmpty_iff m]
  exact (List.suffix_append _ _).isInfix

/-- The command's own constructor. -/
theorem newLines_eq : (CommandType.ofMethod s m).newLines = block
    ("impl" ++ genericParams m.typeParams ++ " " ++
      (commandTypeName m.name ++ genericArgs m.typeParams))
    (block
      ("fn new(" ++ commaList (s.before ("spec: " ++ s.instanceType) ++ m.declared) ++ ") -> Self")
      (line (if m.StoresNothing s then "Self"
        else "Self \x7b " ++
          commaList (s.before "spec" ++ m.captured.map fun p => "m_" ++ p.name ++ ": " ++ p.name) ++
          " \x7d"))) := by
  have hparams := s.map_fields m fun f => f.param ++ ": " ++ f.type
  have hinits : (CommandType.ofMethod s m).fields.map (·.init) = s.before "spec" ++
      m.captured.map fun p => "m_" ++ p.name ++ ": " ++ p.name := by
    have hinit : ∀ p : Param, StorageField.init ⟨"m_" ++ p.name, p.name, p.type⟩
        = "m_" ++ p.name ++ ": " ++ p.name := fun p => if_neg (memberName_ne p.name)
    rw [map_fields, List.map_congr_left fun p _ => hinit p]
    rfl
  unfold CommandType.newLines CommandType.initText
  rw [hparams, hinits]
  simp only [s.fields_isEmpty_iff m]
  rfl

/-- The method is called in the function that applies the command. -/
theorem call_infix_applyLines : indent (indent (line (
    (if s.isInjected then "this.spec." else s.path ++ "::") ++ m.name ++
      "(" ++ commaList (m.params.map fun p => match p.role with
        | .captured => "this.m_" ++ p.name
        | .slot => "&mut " ++ p.name) ++ ");")))
      <:+: (CommandType.ofMethod s m).applyLines s := by
  have harguments : (CommandType.ofMethod s m).arguments.map (·.text)
      = m.params.map fun p => match p.role with
        | .captured => "this.m_" ++ p.name
        | .slot => "&mut " ++ p.name := by
    show (m.params.map Argument.ofParam).map (·.text) = _
    rw [List.map_map]
    refine List.map_congr_left fun ⟨role, name, type⟩ _ => ?_
    cases role
    · exact (String.append_assoc ..).symm
    · rfl
  have hbody : line (CommandType.ofMethod s m).callText
      <:+: (CommandType.ofMethod s m).bodyLines s := by
    unfold CommandType.bodyLines
    rw [List.append_assoc _ _ (line "Ok(())"), List.append_assoc _ (line _)]
    exact List.infix_append' ..
  rw [← harguments]
  refine indent_infix_block _ (.trans (indent_infix_block (") -> " ++ s.handles.outcome) hbody) ?_)
  exact (List.suffix_append _ _).isInfix

/-- **Every method's sources list what they should.** -/
theorem lists : s.Lists m (fun timing => renderLines 1 ((EntryPoint.ofMethod s m timing).lines s))
    (renderLines 1 (CommandMaker.ofMethod s m).lines)
    (renderLines 0 ((CommandType.ofMethod s m).typeLines ++ blank ++
      (CommandType.ofMethod s m).newLines ++ blank ++ (CommandType.ofMethod s m).applyLines s)) where
  entryParams timing := by
    rw [← m.map_text_captured]
    exact stands_indent_of_infix ((opening_infix_block _).trans (s.block_infix_lines m timing))
  entryArguments timing := by
    refine stands_indent_of_infix (.trans (indent_infix_block _ ?_) (s.block_infix_lines m timing))
    exact List.infix_append ..
  maker := by
    rw [← m.map_text_captured]
    exact stands_indent_of_infix (List.infix_refl _)
  fields := by
    refine stands_of_infix ((s.infix_typeLines m).trans ?_)
    simp only [List.append_assoc]
    exact (List.prefix_append _ _).isInfix
  constructor := by
    rw [← s.newLines_eq m]
    refine stands_of_infix ?_
    rw [List.append_assoc _ blank]
    exact List.infix_append ..
  call := stands_of_infix ((s.call_infix_applyLines m).trans (List.suffix_append _ _).isInfix)

end Spec

end Carryover
