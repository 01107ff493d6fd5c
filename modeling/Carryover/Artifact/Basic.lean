/-
# Artifacts

What is synthesised for a component: functions, each in one of two places, and types.  A set
of artifacts is ordered, and its order is the order of the module.
-/
namespace Carryover

/-- Where a synthesised function stands. -/
inductive Placement where
  /-- Among the state hooks that the component overrides. -/
  | override
  /-- Among the component's own functions. -/
  | inherent
  deriving DecidableEq, Repr

/-- A synthesised function, as source at one level of indentation. -/
structure FunctionArtifact where
  name : String
  placement : Placement
  source : String
  deriving DecidableEq, Repr

/-- A synthesised type with what is implemented for it. -/
structure TypeArtifact where
  name : String
  source : String
  deriving DecidableEq, Repr

/-- Synthesised functions and types, in order. -/
structure Artifacts where
  functions : List FunctionArtifact
  types : List TypeArtifact
  deriving DecidableEq, Repr

namespace Artifacts

/-! ## 1. Building -/

/-- Nothing. -/
def empty : Artifacts :=
  ⟨[], []⟩

/-- One function. -/
def ofFunction (f : FunctionArtifact) : Artifacts :=
  ⟨[f], []⟩

/-- One type. -/
def ofType (t : TypeArtifact) : Artifacts :=
  ⟨[], [t]⟩

/-- Both sets, the functions and the types each in order. -/
def append (a b : Artifacts) : Artifacts :=
  ⟨a.functions ++ b.functions, a.types ++ b.types⟩

instance : Append Artifacts := ⟨append⟩

/-- All sets, in order. -/
def concat (sets : List Artifacts) : Artifacts :=
  ⟨sets.flatMap (·.functions), sets.flatMap (·.types)⟩

/-! ## 2. Looking -/

/-- Is there nothing? -/
def isEmpty (a : Artifacts) : Bool :=
  a.functions.isEmpty && a.types.isEmpty

/-- The first function of that name. -/
def function? (a : Artifacts) (name : String) : Option FunctionArtifact :=
  a.functions.find? (·.name == name)

/-- The first type of that name. -/
def type? (a : Artifacts) (name : String) : Option TypeArtifact :=
  a.types.find? (·.name == name)

/-- The functions in one place. -/
def placed (a : Artifacts) (p : Placement) : List FunctionArtifact :=
  a.functions.filter (·.placement = p)

/-- The names of the functions in one place. -/
def functionNames (a : Artifacts) (p : Placement) : List String :=
  (a.placed p).map (·.name)

/-- The names of the types. -/
def typeNames (a : Artifacts) : List String :=
  a.types.map (·.name)

end Artifacts

end Carryover
