/-
# Entry points

The functions by which a caller requests an update.  An entry point takes the context and the
captured arguments, has the component in scope make an update command of them, and hands the
command to the context; without such a component it does nothing.
-/
import Carryover.Artifact.Basic
import Carryover.Model.Generated
import Carryover.Source.Line
import Carryover.Source.Vocabulary

namespace Carryover

open Source

/-- The function that requests one update of a method. -/
structure EntryPoint where
  name : String
  /-- The method of the spec that the update will call. -/
  target : String
  timing : Timing
  typeParams : List TypeParam
  /-- The parameters behind the context. -/
  formals : List Binding
  /-- The component's function that makes the command. -/
  constructor : String
  /-- The arguments for it. -/
  actuals : List String
  deriving DecidableEq, Repr

namespace EntryPoint

/-- The entry point of a method. -/
def ofMethod (s : Spec) (m : Method) (timing : Timing) : EntryPoint where
  name := entryPointName m.name timing
  target := s.path ++ "::" ++ m.name
  timing := timing
  typeParams := m.typeParams
  formals := m.captured.map (·.binding)
  constructor := constructorName m.name
  actuals := m.captured.map (·.name)

/-- The queue in words. -/
def queueName : Timing → String
  | .sync => "synchronous"
  | .async => "asynchronous"

/-- The context's function for the queue. -/
def dispatchName : Timing → String
  | .sync => "update_state"
  | .async => "update_state_async"

/-- The lines that find the component in scope and name it. -/
def scopeLines (s : Spec) (binding : String) : List Line :=
  blockUntil "\x7d;"
    ("let " ++ someValue ++ "(" ++ binding ++ ") = c.component_scope().and_then(" ++
      s.handles.downcastComponent s.component ++ ") else")
    (line "return;")

/-- The header of the function. -/
def header (s : Spec) (e : EntryPoint) : String :=
  "pub fn " ++ e.name ++ genericParams e.typeParams ++
    "(" ++ commaList (("c: &" ++ s.handles.context) :: e.formals.map (·.text)) ++ ")"

/-- The lines of the function. -/
def lines (s : Spec) (e : EntryPoint) : List Line :=
  doc ("Requests `" ++ e.target ++ "` through the " ++ queueName e.timing ++ " queue.") ++
  doc "" ++
  doc "Does nothing when `c` is no longer attached to a component." ++
  block (e.header s) (
    scopeLines s "component" ++
    line ("let state_update = component." ++ e.constructor ++ "(" ++ commaList e.actuals ++
      ");") ++
    line ("c." ++ dispatchName e.timing ++ "(" ++ boxType ++ "::new(state_update));"))

/-- The artifact. -/
def artifact (s : Spec) (e : EntryPoint) : FunctionArtifact :=
  ⟨e.name, .inherent, renderLines 1 (e.lines s)⟩

end EntryPoint

/-- One entry point of a method. -/
def Spec.entryPointArtifact (s : Spec) (m : Method) (timing : Timing) : Artifacts :=
  .ofFunction ((EntryPoint.ofMethod s m timing).artifact s)

/-- Both entry points of every method; without state there is nothing to request. -/
def Spec.entryPointArtifacts (s : Spec) : Artifacts :=
  if s.hasState then
    .concat (s.methods.flatMap fun m =>
      [s.entryPointArtifact m .sync, s.entryPointArtifact m .async])
  else .empty

end Carryover
