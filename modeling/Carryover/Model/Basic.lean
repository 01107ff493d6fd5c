/-
# Component specs

A spec names a component, the state fields that outlive each generation of it, and the methods
that change those fields.  A parameter of a method is either captured, when the update is
requested, or a slot: a field that the method reads and changes when the update is applied.
-/
namespace Carryover

/-- A named, typed value that a component keeps from one generation to the next. -/
structure Field where
  name : String
  type : String
  /-- May the field be overwritten on its own, without a method? -/
  isLazy : Bool
  deriving DecidableEq, Repr

/-- What a method does with a parameter. -/
inductive Role where
  /-- Supplied by the caller and kept unchanged until the update is applied. -/
  | captured
  /-- The state field of the same name, read and changed. -/
  | slot
  deriving DecidableEq, Repr

/-- A parameter of a method; the order of declaration is the order of the call. -/
structure Param where
  role : Role
  name : String
  type : String
  deriving DecidableEq, Repr

/-- A type variable of a method, for the types of its captured parameters. -/
structure TypeParam where
  name : String
  bounds : String
  deriving DecidableEq, Repr

/-- A method that changes state. -/
structure Method where
  name : String
  typeParams : List TypeParam
  params : List Param
  deriving DecidableEq, Repr

/-- The types that synthesised code is written against. -/
structure Handles where
  context : String
  component : String
  container : String
  update : String
  /-- The path below which the remaining items are found. -/
  runtime : String
  deriving DecidableEq, Repr

/-- The path of the items that synthesised code uses unless a spec says otherwise. -/
def defaultRuntime : String := "::stately_runtime"

/-- The handles of the default runtime. -/
def Handles.standard : Handles where
  context := defaultRuntime ++ "::ComponentContext"
  component := defaultRuntime ++ "::Component"
  container := defaultRuntime ++ "::StateContainer"
  update := defaultRuntime ++ "::StateUpdate"
  runtime := defaultRuntime

/-- The spec of one component. -/
structure Spec where
  /-- The type on which the methods are found. -/
  path : String
  /-- The type of the component. -/
  component : String
  fields : List Field
  methods : List Method
  handles : Handles
  /-- Is the spec an instance that the component carries, and not only a namespace? -/
  isInjected : Bool
  /-- Is the presence marker asked for? -/
  wantsMarker : Bool
  deriving DecidableEq, Repr

/-! ## 1. Building -/

namespace Spec

/-- The spec of a component that declares nothing yet. -/
def ofComponent (component : String) : Spec where
  path := component ++ "Spec"
  component := component
  fields := []
  methods := []
  handles := Handles.standard
  isInjected := false
  wantsMarker := true

/-- The spec with one more field. -/
def withField (s : Spec) (f : Field) : Spec :=
  { s with fields := s.fields ++ [f] }

/-- The spec with one more method. -/
def withMethod (s : Spec) (m : Method) : Spec :=
  { s with methods := s.methods ++ [m] }

/-! ## 2. Looking -/

/-- Does the component keep any state? -/
def hasState (s : Spec) : Bool :=
  !s.fields.isEmpty

/-- The first field of that name. -/
def field? (s : Spec) (name : String) : Option Field :=
  s.fields.find? (·.name == name)

/-- The fields that may be overwritten on their own. -/
def lazyFields (s : Spec) : List Field :=
  s.fields.filter (·.isLazy)

end Spec

namespace Method

/-- The captured parameters, in order. -/
def captured (m : Method) : List Param :=
  m.params.filter (·.role = .captured)

/-- The slots, in order. -/
def slots (m : Method) : List Param :=
  m.params.filter (·.role = .slot)

end Method

end Carryover
