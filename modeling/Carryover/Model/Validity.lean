/-
# Checking specs

`Spec.defects` lists every inconsistency that the synthesis cannot work around, in reading
order: the names of the spec, its fields, its methods one by one, repeated methods, and last
the names that would be synthesised twice.  `Spec.check` accepts a spec without defects.

A name counts as repeated when an earlier declaration has it; `withEarlier` puts each
declaration next to the ones before it, so every check is a plain question about a list.
-/
import Carryover.Model.Defect
import Carryover.Model.Name

namespace Carryover

/-! ## 1. Earlier declarations -/

/-- Each element with the elements before it, of which `before` come from elsewhere. -/
def withEarlierFrom {α : Type} : (before : List α) → List α → List (List α × α)
  | _, [] => []
  | before, x :: xs => (before, x) :: withEarlierFrom (before ++ [x]) xs

/-- Each element with the elements before it. -/
def withEarlier {α : Type} (xs : List α) : List (List α × α) :=
  withEarlierFrom [] xs

/-- The elements whose key no earlier element has. -/
def firsts {α : Type} (key : α → String) (xs : List α) : List α :=
  (withEarlier xs).filterMap fun (before, x) =>
    if before.any (key · == key x) then none else some x

/-- The defect, if there is a reason for it. -/
def reportIf (reason : Bool) (d : Defect) : List Defect :=
  if reason then [d] else []

/-! ## 2. Fields -/

/-- The defects of a field behind the fields `before`. -/
def Field.defects (before : List Field) (f : Field) : List Defect :=
  reportIf (!isIdentifier f.name) (.invalidName .field f.name) ++
  reportIf (reservedNames.contains f.name) (.reservedName .fields f.name) ++
  reportIf (before.any (·.name == f.name)) (.duplicateField f.name)

/-! ## 3. Methods -/

/-- The defects of a slot: its field must be declared, with the same type. -/
def Param.slotDefects (s : Spec) (method : String) (p : Param) : List Defect :=
  match p.role with
  | .captured => []
  | .slot =>
    match s.field? p.name with
    | none => [.unknownSlot method p.name]
    | some f => reportIf (f.type != p.type) (.slotMismatch method p.name f.type p.type)

/-- The defects of a parameter behind the parameters `before`. -/
def Param.defects (s : Spec) (method : String) (before : List Param) (p : Param) : List Defect :=
  reportIf (!isIdentifier p.name) (.invalidName .param p.name) ++
  reportIf (reservedNames.contains p.name) (.reservedName (.method method) p.name) ++
  reportIf (before.any (·.name == p.name)) (.duplicateParam method p.name) ++
  p.slotDefects s method

/-- Does a captured parameter's type mention the name? -/
def Method.usesType (m : Method) (name : String) : Bool :=
  m.captured.any fun p => Text.mentions p.type name

/-- The defects of a type parameter behind the type parameters `before`. -/
def TypeParam.defects (m : Method) (before : List TypeParam) (p : TypeParam) : List Defect :=
  reportIf (!isIdentifier p.name) (.invalidName .typeParam p.name) ++
  reportIf (before.any (·.name == p.name)) (.duplicateParam m.name p.name) ++
  reportIf (!m.usesType p.name) (.unusedTypeParam m.name p.name)

/-- The defect of a captured parameter that would be stored under the name of a slot. -/
def Method.memberDefects (m : Method) (p : Param) : List Defect :=
  reportIf (m.slots.any (·.name == memberName p.name))
    (.memberCollision m.name p.name (memberName p.name))

/-- The defects of a method on its own. -/
def Method.defects (s : Spec) (m : Method) : List Defect :=
  reportIf (!isIdentifier m.name) (.invalidName .method m.name) ++
  (withEarlier m.params).flatMap (fun (before, p) => p.defects s m.name before) ++
  (withEarlier m.typeParams).flatMap (fun (before, p) => p.defects m before) ++
  m.captured.flatMap m.memberDefects

/-- The defect of a method whose name one of the methods `before` has. -/
def Method.repeatDefects (before : List Method) (m : Method) : List Defect :=
  reportIf (before.any (·.name == m.name)) (.duplicateMethod m.name)

/-! ## 4. Synthesised names -/

/-- The two spaces in which synthesised names must differ. -/
inductive NameSpace where
  /-- Functions of the component. -/
  | functions
  /-- Types of the module. -/
  | types
  deriving DecidableEq, Repr

/-- A synthesised name with what it stands for. -/
structure Product where
  space : NameSpace
  name : String
  producer : Producer
  deriving DecidableEq, Repr

/-- The names that are made from a method. -/
def Method.products (m : Method) : List Product := [
  ⟨.functions, entryPointName m.name .sync, .entryPoint m.name .sync⟩,
  ⟨.functions, entryPointName m.name .async, .entryPoint m.name .async⟩,
  ⟨.functions, constructorName m.name, .constructor m.name⟩,
  ⟨.types, commandTypeName m.name, .command m.name⟩]

/-- The name that is made from a lazy field. -/
def Field.product (f : Field) : Product :=
  ⟨.functions, lazyUpdaterName f.name, .lazyUpdater f.name⟩

/-- The names of the module, with the component's own; repeated methods and fields count
once. -/
def Spec.products (s : Spec) : List Product :=
  [⟨.types, s.component, .component⟩, ⟨.types, s.containerName, .container⟩] ++
  (firsts (·.name) s.methods).flatMap Method.products ++
  (firsts (·.name) s.lazyFields).map Field.product

/-- Do two names meet? -/
def Product.meets (p q : Product) : Bool :=
  p.space == q.space && p.name == q.name

/-- The defect of a name that one of the names `before` meets; the first of them is named. -/
def Product.defects (before : List Product) (p : Product) : List Defect :=
  match before.find? p.meets with
  | none => []
  | some q => [.nameCollision p.name q.producer p.producer]

/-- The defects of the synthesised names.  Without state nothing is synthesised. -/
def Spec.nameDefects (s : Spec) : List Defect :=
  if s.hasState then (withEarlier s.products).flatMap fun (before, p) => p.defects before else []

/-! ## 5. Specs -/

/-- Every defect of a spec, in reading order. -/
def Spec.defects (s : Spec) : List Defect :=
  reportIf (!isPath s.path) (.invalidName .specPath s.path) ++
  reportIf (!isIdentifier s.component) (.invalidName .component s.component) ++
  (withEarlier s.fields).flatMap (fun (before, f) => f.defects before) ++
  s.methods.flatMap (·.defects s) ++
  (withEarlier s.methods).flatMap (fun (before, m) => m.repeatDefects before) ++
  s.nameDefects

/-- Accepts a spec without defects. -/
def Spec.check (s : Spec) : Except Rejection Unit :=
  match s.defects with
  | [] => .ok ()
  | defects => .error ⟨s.component, defects⟩

end Carryover
