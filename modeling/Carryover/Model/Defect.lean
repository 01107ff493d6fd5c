/-
# Defects of a spec

Each inconsistency that a check can find, as its cause; `Defect.message` words it.  A rejection
collects all defects of one spec, so its author sees every one of them at once.
-/
import Carryover.Model.Generated

namespace Carryover

/-! ## 1. Causes -/

/-- What an invalid name was to be. -/
inductive NameUse where
  | specPath | component | field | method | param | typeParam
  deriving DecidableEq, Repr

/-- Whose names meet a reserved one. -/
inductive Owner where
  | fields
  | method (name : String)
  deriving DecidableEq, Repr

/-- What a synthesised name stands for. -/
inductive Producer where
  | component
  | container
  | entryPoint (method : String) (timing : Timing)
  | constructor (method : String)
  | command (method : String)
  | lazyUpdater (field : String)
  deriving DecidableEq, Repr

/-- One inconsistency of a spec. -/
inductive Defect where
  | invalidName (use : NameUse) (name : String)
  | reservedName (owner : Owner) (name : String)
  | duplicateField (name : String)
  | duplicateMethod (name : String)
  /-- A repeated parameter or type parameter. -/
  | duplicateParam (method param : String)
  | unknownSlot (method param : String)
  | slotMismatch (method param declared found : String)
  /-- A captured parameter is stored under the name of a slot. -/
  | memberCollision (method captured stored : String)
  | nameCollision (name : String) (first second : Producer)
  | unusedTypeParam (method param : String)
  deriving DecidableEq, Repr

/-! ## 2. Wording -/

/-- The use of a name in words. -/
def NameUse.describe : NameUse → String
  | .specPath => "spec type path"
  | .component => "component name"
  | .field => "state field name"
  | .method => "update-state method name"
  | .param => "parameter name"
  | .typeParam => "type parameter name"

/-- A name between backquotes. -/
def ticked (name : String) : String :=
  "`" ++ name ++ "`"

/-- The owner in words. -/
def Owner.describe : Owner → String
  | .fields => "state fields"
  | .method name => "update-state method " ++ ticked name

/-- The producer in words. -/
def Producer.describe : Producer → String
  | .component => "the component"
  | .container => "the state container"
  | .entryPoint m .sync => "the entry point of update-state method " ++ ticked m
  | .entryPoint m .async => "the async entry point of update-state method " ++ ticked m
  | .constructor m => "the command constructor of update-state method " ++ ticked m
  | .command m => "the command type of update-state method " ++ ticked m
  | .lazyUpdater f => "the lazy updater of state field " ++ ticked f

/-- The wording of a defect. -/
def Defect.message : Defect → String
  | .invalidName use name => ticked name ++ " is not a valid " ++ use.describe
  | .reservedName owner name =>
    ticked name ++ " in " ++ owner.describe ++ " is a name reserved by generated code"
  | .duplicateField name => "duplicate state field " ++ ticked name
  | .duplicateMethod name => "duplicate update-state method " ++ ticked name
  | .duplicateParam method param =>
    "duplicate parameter " ++ ticked param ++ " in update-state method " ++ ticked method
  | .unknownSlot method param =>
    "update-state method " ++ ticked method ++ " references undeclared state field " ++
      ticked param
  | .slotMismatch method param declared found =>
    "state slot " ++ ticked param ++ " in " ++ ticked method ++ " has type " ++ ticked found ++
      ", but the state field is declared as " ++ ticked declared
  | .memberCollision method captured stored =>
    "in " ++ ticked method ++ ", captured parameter " ++ ticked captured ++ " is stored as " ++
      ticked stored ++ ", which collides with state slot " ++ ticked stored
  | .nameCollision name first second =>
    "generated name " ++ ticked name ++ " is produced by both " ++ first.describe ++ " and " ++
      second.describe
  | .unusedTypeParam method param =>
    "type parameter " ++ ticked param ++ " of update-state method " ++ ticked method ++
      " is not used by any captured parameter"

/-! ## 3. Rejections -/

/-- The defects of the spec of one component, in the order in which they were found. -/
structure Rejection where
  component : String
  defects : List Defect
  deriving DecidableEq, Repr

/-- A headline, then one line for each defect. -/
def Rejection.message (r : Rejection) : String :=
  "spec model " ++ ticked r.component ++ " has " ++ toString r.defects.length ++ " error(s)" ++
    String.join (r.defects.map fun d => "\n  - " ++ d.message)

end Carryover
