/-
# Names of what is synthesised

Every name in a state module is made from a name of the spec by one of these rules.  The
checks of `Carryover.Model.Validity` and the synthesis share them.
-/
import Carryover.Model.Basic
import Carryover.Text.Case

namespace Carryover

/-- When an update that was requested through an entry point is to be applied. -/
inductive Timing where
  /-- Before control returns to the caller's frame. -/
  | sync
  /-- On a later turn. -/
  | async
  deriving DecidableEq, Repr

/-- The type of the update commands of a method. -/
def commandTypeName (method : String) : String :=
  String.ofList (Text.Case.toPascal method.toList) ++ "StateUpdate"

/-- The component's method that makes an update command. -/
def constructorName (method : String) : String :=
  "create_" ++ method ++ "_state_update"

/-- The function that requests an update. -/
def entryPointName (method : String) : Timing → String
  | .sync => method
  | .async => method ++ "_async"

/-- The function that overwrites a lazy field. -/
def lazyUpdaterName (field : String) : String :=
  "lazy_update_" ++ field

/-- The field of an update command that stores a captured parameter. -/
def memberName (param : String) : String :=
  "m_" ++ param

/-- The type of the record that holds a component's state. -/
def Spec.containerName (s : Spec) : String :=
  s.component ++ "StateContainer"

/-- The file of a component's state module. -/
def moduleFileName (component : String) : String :=
  String.ofList (Text.Case.toSnake component.toList) ++ "_state.rs"

end Carryover
