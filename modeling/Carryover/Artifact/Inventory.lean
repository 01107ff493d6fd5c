/-
# The inventory of a component

Everything that is synthesised for a spec, in the order of the contract: container, presence
marker, transfer, entry points, commands, lazy updaters.  Nothing is synthesised for a spec
that has defects.
-/
import Carryover.Artifact.Container
import Carryover.Artifact.EntryPoint
import Carryover.Artifact.LazyUpdater
import Carryover.Model.Validity

namespace Carryover

/-- All artifacts of a spec, whether it is sound or not. -/
def Spec.artifacts (s : Spec) : Artifacts :=
  .concat [s.containerArtifacts, s.markerArtifacts, s.transferArtifacts, s.entryPointArtifacts,
    s.commandArtifacts, s.lazyArtifacts]

/-- The artifacts of a spec without defects. -/
def Spec.synthesize (s : Spec) : Except Rejection Artifacts := do
  s.check
  return s.artifacts

end Carryover
