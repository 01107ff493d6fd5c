/-
# Update commands

A command is a call that waits.  It stores every captured argument; when it is applied it puts
the current value of each slot into a box, calls the method with its arguments in declared
order, and writes what the boxes still hold into the new component.  The component's
constructor of the command stands here too, because both have the captured parameters as
their interface.
-/
import Carryover.Artifact.Basic
import Carryover.Model.Generated
import Carryover.Source.Line
import Carryover.Source.Vocabulary

namespace Carryover

open Source

/-! ## 1. Boxes -/

/-- The lines that make a box and put a value into it. -/
def seedLines (h : Handles) (box : Binding) (seed : String) : List Line :=
  line ("let mut " ++ box.name ++ ": " ++ h.boxOf box.type ++ " = " ++ h.item "StateValue" ++
    "::new();") ++
  line (box.name ++ ".set(" ++ seed ++ ");")

/-- The lines that write what a box still holds into the new component. -/
def storeLines (box : String) : List Line :=
  block ("if let " ++ someValue ++ "(value) = " ++ box ++ ".into_inner()")
    (line ("new_component." ++ containerField ++ "." ++ box ++ " = value;"))

/-! ## 2. The command type -/

/-- A field of a command: where it is stored, and the constructor's parameter that fills it. -/
structure StorageField where
  member : String
  param : String
  type : String
  deriving DecidableEq, Repr

/-- The field as the constructor sets it. -/
def StorageField.init (f : StorageField) : String :=
  if f.member = f.param then f.member else f.member ++ ": " ++ f.param

/-- An argument of the call. -/
inductive Argument where
  /-- What the command has stored. -/
  | stored (member : String)
  /-- A box, lent for the call. -/
  | box (name : String)
  deriving DecidableEq, Repr

/-- The argument as it is written. -/
def Argument.text : Argument → String
  | .stored member => "this." ++ member
  | .box name => "&mut " ++ name

/-- The argument for a parameter. -/
def Argument.ofParam (p : Param) : Argument :=
  match p.role with
  | .captured => .stored (memberName p.name)
  | .slot => .box p.name

/-- The command type of a method. -/
structure CommandType where
  name : String
  /-- The method that is called. -/
  target : String
  typeParams : List TypeParam
  fields : List StorageField
  slots : List Binding
  /-- What stands before the method's name in the call. -/
  receiver : String
  method : String
  arguments : List Argument
  deriving DecidableEq, Repr

namespace CommandType

/-- The field for the spec's instance. -/
def specFields (s : Spec) : List StorageField :=
  if s.isInjected then [⟨specField, specField, sharedType ++ "<" ++ s.path ++ ">"⟩] else []

/-- The field for a captured parameter. -/
def capturedField (p : Param) : StorageField :=
  ⟨memberName p.name, p.name, p.type⟩

/-- The command of a method. -/
def ofMethod (s : Spec) (m : Method) : CommandType where
  name := commandTypeName m.name
  target := s.path ++ "::" ++ m.name
  typeParams := m.typeParams
  fields := specFields s ++ m.captured.map capturedField
  slots := m.slots.map (·.binding)
  receiver := if s.isInjected then "this." ++ specField ++ "." else s.path ++ "::"
  method := m.name
  arguments := m.params.map Argument.ofParam

/-- The type with its arguments. -/
def applied (c : CommandType) : String :=
  c.name ++ genericArgs c.typeParams

/-- The lines of the type; without fields it is declared bare. -/
def typeLines (c : CommandType) : List Line :=
  doc ("Deferred call to `" ++ c.target ++
    "`, replayed against the state current at apply time.") ++
  if c.fields.isEmpty then line ("struct " ++ c.name ++ ";")
  else
    block ("struct " ++ c.name ++ genericParams c.typeParams)
      (c.fields.flatMap fun f => line (f.member ++ ": " ++ f.type ++ ","))

/-- The value that the constructor makes. -/
def initText (c : CommandType) : String :=
  if c.fields.isEmpty then "Self"
  else "Self \x7b " ++ commaList (c.fields.map (·.init)) ++ " \x7d"

/-- The lines of the constructor. -/
def newLines (c : CommandType) : List Line :=
  block ("impl" ++ genericParams c.typeParams ++ " " ++ c.applied)
    (block ("fn new(" ++ commaList (c.fields.map fun f => f.param ++ ": " ++ f.type) ++
        ") -> Self")
      (line c.initText))

/-- The call of the method. -/
def callText (c : CommandType) : String :=
  c.receiver ++ c.method ++ "(" ++ commaList (c.arguments.map (·.text)) ++ ");"

/-- The lines that find the concrete container and component, which slots need. -/
def downcastLines (s : Spec) (c : CommandType) : List Line :=
  if c.slots.isEmpty then []
  else
    line ("let state_container = " ++ s.handles.downcastContainer s.containerName ++
      "(state_container)?;") ++
    line ("let new_component = " ++ s.handles.downcastComponentMut s.component ++
      "(new_component)?;")

/-- The lines of the body that applies the command. -/
def bodyLines (s : Spec) (c : CommandType) : List Line :=
  (if c.fields.isEmpty then [] else line "let this = *self;") ++
  c.downcastLines s ++
  c.slots.flatMap (fun b =>
    seedLines s.handles b (cloneFunction ++ "(&state_container." ++ b.name ++ ")")) ++
  line c.callText ++
  c.slots.flatMap (fun b => storeLines b.name) ++
  line "Ok(())"

/-- The lines of the implementation.  Parameters that nothing uses begin with an underscore. -/
def applyLines (s : Spec) (c : CommandType) : List Line :=
  let unused := if c.slots.isEmpty then "_" else ""
  block ("impl" ++ genericParams c.typeParams ++ " " ++ s.handles.update ++ " for " ++ c.applied)
    (line "fn update_state(" ++
    indent (
      line ("self: " ++ boxType ++ "<Self>,") ++
      line (unused ++ "state_container: &dyn " ++ s.handles.container ++ ",") ++
      line (unused ++ "new_component: &mut dyn " ++ s.handles.component ++ ",")) ++
    block (") -> " ++ s.handles.outcome) (c.bodyLines s))

/-- The artifact. -/
def artifact (s : Spec) (c : CommandType) : TypeArtifact :=
  ⟨c.name, renderLines 0 (c.typeLines ++ blank ++ c.newLines ++ blank ++ c.applyLines s)⟩

end CommandType

/-! ## 3. The component's constructor of the command -/

/-- The component's function that makes a command. -/
structure CommandMaker where
  name : String
  typeParams : List TypeParam
  /-- The parameters behind the component itself. -/
  formals : List Binding
  command : String
  /-- The arguments for the command's own constructor. -/
  actuals : List String
  deriving DecidableEq, Repr

namespace CommandMaker

/-- The argument for the spec's instance. -/
def specActuals (s : Spec) : List String :=
  if s.isInjected then [sharedType ++ "::clone(&self." ++ specField ++ ")"] else []

/-- The constructor for a method. -/
def ofMethod (s : Spec) (m : Method) : CommandMaker where
  name := constructorName m.name
  typeParams := m.typeParams
  formals := m.captured.map (·.binding)
  command := commandTypeName m.name
  actuals := specActuals s ++ m.captured.map (·.name)

/-- The header of the function. -/
def header (k : CommandMaker) : String :=
  "fn " ++ k.name ++ genericParams k.typeParams ++
    "(" ++ commaList ("&self" :: k.formals.map (·.text)) ++ ") -> " ++ k.command ++
    genericArgs k.typeParams

/-- The lines of the function. -/
def lines (k : CommandMaker) : List Line :=
  block k.header (line (k.command ++ "::new(" ++ commaList k.actuals ++ ")"))

/-- The artifact. -/
def artifact (k : CommandMaker) : FunctionArtifact :=
  ⟨k.name, .inherent, renderLines 1 k.lines⟩

end CommandMaker

/-! ## 4. The artifacts -/

/-- The component's constructor of a method's command. -/
def Spec.makerArtifact (s : Spec) (m : Method) : Artifacts :=
  .ofFunction (CommandMaker.ofMethod s m).artifact

/-- The command of a method with its constructor. -/
def Spec.commandArtifact (s : Spec) (m : Method) : Artifacts :=
  s.makerArtifact m ++ .ofType ((CommandType.ofMethod s m).artifact s)

/-- The commands of all methods; without state there are none. -/
def Spec.commandArtifacts (s : Spec) : Artifacts :=
  if s.hasState then .concat (s.methods.map s.commandArtifact) else .empty

end Carryover
