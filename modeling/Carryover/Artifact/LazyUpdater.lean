/-
# Lazy updaters

The functions that overwrite one field.  The value is put into a box when the update is
requested, and written into the new component when it is applied; the old container is not
read and no method runs.
-/
import Carryover.Artifact.Command

namespace Carryover

open Source

/-- The function that overwrites a field. -/
structure LazyUpdater where
  name : String
  field : Binding
  deriving DecidableEq, Repr

namespace LazyUpdater

/-- The lazy updater of a field. -/
def ofField (f : Field) : LazyUpdater :=
  ⟨lazyUpdaterName f.name, ⟨f.name, f.type⟩⟩

/-- The header of the function. -/
def header (s : Spec) (u : LazyUpdater) : String :=
  "pub fn " ++ u.name ++
    "(" ++ commaList ["c: &" ++ s.handles.context, lazyValue ++ ": " ++ u.field.type] ++ ")"

/-- The lines of the update, a closure. -/
def closureLines (s : Spec) (u : LazyUpdater) : List Line :=
  blockUntil "\x7d,"
    ("move |_state_container: &dyn " ++ s.handles.container ++ ", new_component: &mut dyn " ++
      s.handles.component ++ "|")
    (line ("let new_component = " ++ s.handles.downcastComponentMut s.component ++
      "(new_component)?;") ++
    storeLines u.field.name ++
    line "Ok(())")

/-- The lines of the function. -/
def lines (s : Spec) (u : LazyUpdater) : List Line :=
  doc ("Overwrites `" ++ u.field.name ++
    "` through the lazy queue without running any update method.") ++
  block (u.header s) (
    block ("if c.component_scope().and_then(" ++ s.handles.downcastComponent s.component ++
        ").is_none()")
      (line "return;") ++
    seedLines s.handles u.field lazyValue ++
    line ("let state_update = " ++ s.handles.item "LazyStateUpdate" ++ "::new(") ++
    indent (u.closureLines s) ++
    line ");" ++
    line ("c.update_state_lazy(" ++ boxType ++ "::new(state_update));"))

/-- The artifact. -/
def artifact (s : Spec) (u : LazyUpdater) : FunctionArtifact :=
  ⟨u.name, .inherent, renderLines 1 (u.lines s)⟩

end LazyUpdater

/-- The lazy updater of a field. -/
def Spec.lazyArtifact (s : Spec) (f : Field) : Artifacts :=
  .ofFunction ((LazyUpdater.ofField f).artifact s)

/-- The lazy updaters of all lazy fields. -/
def Spec.lazyArtifacts (s : Spec) : Artifacts :=
  .concat (s.lazyFields.map s.lazyArtifact)

end Carryover
