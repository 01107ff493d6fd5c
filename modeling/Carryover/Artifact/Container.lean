/-
# The state container

The record that holds a component's state: one public field for each state field, the copying
that a replay needs, and the function by which the component shows it.  The two other hooks
that a component with state overrides stand here too: the presence marker and the transfer,
which copies every field of an older container in order of declaration.
-/
import Carryover.Artifact.Basic
import Carryover.Model.Generated
import Carryover.Source.Line
import Carryover.Source.Vocabulary

namespace Carryover

open Source

/-! ## 1. The container type -/

/-- The record type of a component's state. -/
structure ContainerType where
  component : String
  name : String
  /-- The trait of all containers. -/
  interface : String
  fields : List Binding
  deriving DecidableEq, Repr

namespace ContainerType

/-- The container of a spec. -/
def ofSpec (s : Spec) : ContainerType where
  component := s.component
  name := s.containerName
  interface := s.handles.container
  fields := s.fields.map fun f => ⟨f.name, f.type⟩

/-- The lines of one field. -/
def fieldLines (f : Binding) : List Line :=
  doc ("State value `" ++ f.name ++ "`.") ++ line ("pub " ++ f.text ++ ",")

/-- The lines of the record. -/
def recordLines (c : ContainerType) : List Line :=
  doc ("State of one `" ++ c.component ++ "` generation.") ++
  line "#[derive(Clone)]" ++
  block ("pub struct " ++ c.name) (c.fields.flatMap fieldLines)

/-- The lines of the copying. -/
def copyLines (c : ContainerType) : List Line :=
  block ("impl " ++ c.interface ++ " for " ++ c.name)
    (block ("fn clone_box(&self) -> " ++ boxType ++ "<dyn " ++ c.interface ++ ">")
      (line (boxType ++ "::new(" ++ cloneFunction ++ "(self))")))

/-- The artifact. -/
def artifact (c : ContainerType) : TypeArtifact :=
  ⟨c.name, renderLines 0 (c.recordLines ++ blank ++ c.copyLines)⟩

end ContainerType

/-! ## 2. The overrides -/

/-- The lines of the function that shows the container. -/
def accessorLines (s : Spec) : List Line :=
  block ("fn state_container(&self) -> " ++ optionType ++ "<&dyn " ++ s.handles.container ++ ">")
    (line (someValue ++ "(&self." ++ containerField ++ ")"))

/-- The lines of the presence marker. -/
def markerLines : List Line :=
  block "fn has_state(&self) -> bool" (line "true")

/-- The line that copies one field. -/
def transferLine (f : Field) : String :=
  "self." ++ containerField ++ "." ++ f.name ++ " = " ++ cloneFunction ++
    "(&prev_state_container." ++ f.name ++ ");"

/-- The lines of the transfer. -/
def transferLines (s : Spec) : List Line :=
  line "fn transfer_state(" ++
  indent (
    line "&mut self," ++
    line ("_context: &" ++ s.handles.context ++ ",") ++
    line ("prev_state_container: &dyn " ++ s.handles.container ++ ",")) ++
  block (") -> " ++ s.handles.outcome) (
    line ("let prev_state_container = " ++ s.handles.downcastContainer s.containerName ++
      "(prev_state_container)?;") ++
    s.fields.flatMap (fun f => line (transferLine f)) ++
    line "Ok(())")

/-- An override with these lines. -/
def overrideFunction (name : String) (lines : List Line) : Artifacts :=
  .ofFunction ⟨name, .override, renderLines 1 lines⟩

/-! ## 3. The artifacts -/

/-- The container with its accessor; without state there is none. -/
def Spec.containerArtifacts (s : Spec) : Artifacts :=
  if s.hasState then
    .ofType (ContainerType.ofSpec s).artifact ++ overrideFunction "state_container" (accessorLines s)
  else .empty

/-- The presence marker, where there is state and the spec asks for the marker. -/
def Spec.markerArtifacts (s : Spec) : Artifacts :=
  if s.wantsMarker && s.hasState then overrideFunction "has_state" markerLines else .empty

/-- The transfer; without state there is none. -/
def Spec.transferArtifacts (s : Spec) : Artifacts :=
  if s.hasState then overrideFunction "transfer_state" (transferLines s) else .empty

end Carryover
