/-
# The state module

The file that holds a component's artifacts: a header comment, the component's overrides, its
own functions if there are any, and every type.
-/
import Carryover.Artifact.Basic
import Carryover.Model.Basic
import Carryover.Source.Buffer
import Carryover.Source.Vocabulary

namespace Carryover

open Source

/-- The header of a module. -/
def moduleHeader (s : Spec) : String :=
  "@generated by stately-codegen from `" ++ s.path ++
    "`.\n\nDo not edit: regenerate from the spec model instead."

/-- Appends sources as they are, with an empty line between neighbours. -/
def writeSources : (sources : List String) → Buffer → Buffer
  | [], b => b
  | [source], b => b.raw source
  | source :: rest, b => writeSources rest ((b.raw source).blank)

/-- Appends an implementation that holds these sources. -/
def writeImpl (header : String) (sources : List String) (b : Buffer) : Buffer :=
  if sources.isEmpty then b.line (header ++ " \x7b\x7d")
  else (writeSources sources (b.line (opening header))).line "\x7d"

/-- The sources of the functions in one place. -/
def Artifacts.sources (a : Artifacts) (p : Placement) : List String :=
  (a.placed p).map (·.source)

/-- The text of the module of a spec's component that holds these artifacts. -/
def Spec.moduleText (s : Spec) (a : Artifacts) : String :=
  let b := Buffer.withHeader (moduleHeader s)
  let b := writeImpl ("impl " ++ s.handles.item "ComponentState" ++ " for " ++ s.component)
    (a.sources .override) b
  let inherent := a.sources .inherent
  let b := if inherent.isEmpty then b else writeImpl ("impl " ++ s.component) inherent b.blank
  (a.types.foldl (fun b t => b.blank.raw t.source) b).text

end Carryover
