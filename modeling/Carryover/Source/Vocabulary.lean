/-
# Words of synthesised source

Synthesised code spells every item in full, so it means the same wherever it is included.
-/
import Carryover.Model.Basic
import Carryover.Text.Blank

namespace Carryover.Source

/-! ## 1. Items of the language -/

/-- The type of results. -/
def resultType : String := "::core::result::Result"

/-- The constructor of a value that is there. -/
def someValue : String := "::core::option::Option::Some"

/-- The type of values that may be missing. -/
def optionType : String := "::core::option::Option"

/-- The type of owned values behind a pointer. -/
def boxType : String := "::std::boxed::Box"

/-- The type of shared values. -/
def sharedType : String := "::std::sync::Arc"

/-- The trait of values that may change threads. -/
def sendTrait : String := "::core::marker::Send"

/-- The copying function. -/
def cloneFunction : String := "::core::clone::Clone::clone"

/-! ## 2. Names that synthesised code binds -/

/-- The component's field that holds its state. -/
def containerField : String := "state_container"

/-- The component's field that holds its spec, and the field of a command for it. -/
def specField : String := "spec"

/-- The parameter of a lazy updater. -/
def lazyValue : String := "lazy_update_value"

/-! ## 3. Bindings -/

/-- A name with its type: a parameter or a field. -/
structure Binding where
  name : String
  type : String
  deriving DecidableEq, Repr

/-- The binding as it is declared. -/
def Binding.text (b : Binding) : String :=
  b.name ++ ": " ++ b.type

/-- Parts of a list in one line. -/
def commaList (parts : List String) : String :=
  String.intercalate ", " parts

/-! ## 4. Type parameters -/

/-- A type parameter with its bounds; a command moves between threads and outlives the request,
so two bounds are always added. -/
def typeParamText (p : TypeParam) : String :=
  let bounds := String.ofList (Text.trim p.bounds.toList)
  p.name ++ ": " ++ (if bounds.isEmpty then "" else bounds ++ " + ") ++ sendTrait ++ " + 'static"

/-- A list between angle brackets, or nothing. -/
def angled (parts : List String) : String :=
  if parts.isEmpty then "" else "<" ++ commaList parts ++ ">"

/-- The declaration of type parameters. -/
def genericParams (ps : List TypeParam) : String :=
  angled (ps.map typeParamText)

/-- The type parameters as arguments. -/
def genericArgs (ps : List TypeParam) : String :=
  angled (ps.map (·.name))

end Carryover.Source

namespace Carryover

open Source

/-! ## 5. Items of the runtime -/

/-- The path of an item of the runtime. -/
def Handles.item (h : Handles) (name : String) : String :=
  h.runtime ++ "::" ++ name

/-- The type of a box for values of a type. -/
def Handles.boxOf (h : Handles) (type : String) : String :=
  h.item "StateValue" ++ "<" ++ type ++ ">"

/-- The type of what an update answers. -/
def Handles.outcome (h : Handles) : String :=
  resultType ++ "<(), " ++ h.item "StateError" ++ ">"

/-- A downcast of containers to a type. -/
def Handles.downcastContainer (h : Handles) (type : String) : String :=
  h.item "downcast_container" ++ "::<" ++ type ++ ">"

/-- A downcast of components to a type. -/
def Handles.downcastComponent (h : Handles) (type : String) : String :=
  h.item "downcast_component" ++ "::<" ++ type ++ ">"

/-- A downcast of components that are to be changed to a type. -/
def Handles.downcastComponentMut (h : Handles) (type : String) : String :=
  h.item "downcast_component_mut" ++ "::<" ++ type ++ ">"

/-- A parameter as a binding. -/
def Param.binding (p : Param) : Binding :=
  ⟨p.name, p.type⟩

end Carryover
