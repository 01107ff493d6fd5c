/-
# Specs as documents

The JSON form of a spec: `Spec.ofDocument` reads it and `Spec.toText` writes it.  A record is an
object or the list of its fields; a parameter is told apart by its `kind`, and is held as a
whole before it is looked at.  Writing leaves out nothing but an empty list of type
parameters.
-/
import Carryover.Json.Printer
import Carryover.Json.Walk
import Carryover.Model.Basic

namespace Carryover

open Json

/-! ## 1. Parameters -/

/-- The name of a role in a document. -/
def Role.kind : Role → String
  | .captured => "captured"
  | .slot => "state_slot"

/-- The role that a kind names. -/
def Role.read (t : Tree) : Except Problem Role := do
  match ← t.found with
  | .text kind =>
    if kind = Role.captured.kind then return .captured
    else if kind = Role.slot.kind then return .slot
    else .error (.mismatch (.unknownVariant kind "`captured` or `state_slot`"))
  | found => found.isNot "variant identifier"

namespace Param

/-- What a list in place of a parameter had to be behind its kind. -/
def wantedList : Role → String
  | .captured => "struct variant MethodParam::Captured with 2 elements"
  | .slot => "struct variant MethodParam::StateSlot with 2 elements"

/-- A parameter from what a list holds behind the kind. -/
def ofItems (role : Role) : List Found → Except Problem Param
  | [] => .error (.mismatch (.wrongLength 0 (wantedList role)))
  | [name] => do
    discard name.asText
    .error (.mismatch (.wrongLength 1 (wantedList role)))
  | name :: type :: rest => do
    let name ← name.asText
    let type ← type.asText
    if rest.isEmpty then return ⟨role, name, type⟩
    else .error (.mismatch (.wrongLength (2 + rest.length) "2 elements in sequence"))

/-- A parameter from the held members of an object, of which `name?` and `type?` are found. -/
def ofMembers (role : Role) (name? type? : Option String) :
    List (String × Found) → Except Problem Param
  | [] => do
    let name ← orMissing "name" name?
    let type ← orMissing "ty" type?
    return ⟨role, name, type⟩
  | (key, found) :: rest =>
    if key = "name" then
      if name?.isSome then .error (.mismatch (.duplicateField key))
      else do ofMembers role (some (← found.asText)) type? rest
    else if key = "ty" then
      if type?.isSome then .error (.mismatch (.duplicateField key))
      else do ofMembers role name? (some (← found.asText)) rest
    else ofMembers role name? type? rest

/-- Splits the members of a parameter into its kind, which is read at once, and the others,
which are held. -/
def splitMembers (room : Nat) :
    (role? : Option Role) → Members → Except Problem (Option Role × List (String × Found))
  | role?, .close => .ok (role?, [])
  | _, .stop f => .error f.wanted
  | role?, .more us t rest => do
    let key ← decode us
    if key = "kind" then
      if role?.isSome then .error (.mismatch (.duplicateField key))
      else splitMembers room (some (← Role.read t)) rest
    else
      let found ← t.hold room
      let (role?, others) ← splitMembers room role? rest
      return (role?, (key, found) :: others)

/-- Reads a parameter. -/
def read : Reader Param := fun room t =>
  match t with
  | .list items => do
    let room ← enter room
    match items with
    | .close => .error (.mismatch (.missingField "kind"))
    | .stop f => .error f.wanted
    | .more t rest => do
      let role ← Role.read t
      ofItems role (← rest.hold room)
  | .object members => do
    let room ← enter room
    let (role?, others) ← splitMembers room none members
    let role ← orMissing "kind" role?
    ofMembers role none none others
  | t => do (← t.found).isNot "internally tagged enum MethodParam"

end Param

/-! ## 2. Records -/

/-- An entry whose value is a text. -/
def textEntry {δ : Type} (key : String) (isRequired : Bool) (get : δ → Option String)
    (put : δ → String → δ) : Entry δ where
  key := key
  isRequired := isRequired
  isSet d := (get d).isSome
  set _ t d := return put d (← t.asText)

/-- An entry whose value is a truth value. -/
def boolEntry {δ : Type} (key : String) (get : δ → Option Bool) (put : δ → Bool → δ) :
    Entry δ where
  key := key
  isRequired := false
  isSet d := (get d).isSome
  set _ t d := return put d (← t.asBool)

/-- An entry that may be missing and whose value `read` reads. -/
def optionalEntry {δ α : Type} (key : String) (read : Reader α) (get : δ → Option α)
    (put : δ → α → δ) : Entry δ where
  key := key
  isRequired := false
  isSet d := (get d).isSome
  set room t d := return put d (← read room t)

/-- A field under construction. -/
structure FieldDraft where
  name? : Option String
  type? : Option String
  isLazy? : Option Bool

/-- The fields of a state field. -/
def FieldDraft.shape : Shape FieldDraft where
  title := "struct StateField"
  entries := [
    textEntry "name" true (·.name?) fun d v => { d with name? := some v },
    textEntry "ty" true (·.type?) fun d v => { d with type? := some v },
    boolEntry "can_update_lazily" (·.isLazy?) fun d v => { d with isLazy? := some v }]

/-- Reads a state field. -/
def Field.read : Reader Field := fun room t => do
  let d ← FieldDraft.shape.read ⟨none, none, none⟩ room t
  let name ← orMissing "name" d.name?
  let type ← orMissing "ty" d.type?
  return ⟨name, type, d.isLazy?.getD false⟩

/-- A type parameter under construction. -/
structure TypeParamDraft where
  name? : Option String
  bounds? : Option String

/-- The fields of a type parameter. -/
def TypeParamDraft.shape : Shape TypeParamDraft where
  title := "struct TypeParam"
  entries := [
    textEntry "name" true (·.name?) fun d v => { d with name? := some v },
    textEntry "bounds" false (·.bounds?) fun d v => { d with bounds? := some v }]

/-- Reads a type parameter. -/
def TypeParam.read : Reader TypeParam := fun room t => do
  let d ← TypeParamDraft.shape.read ⟨none, none⟩ room t
  let name ← orMissing "name" d.name?
  return ⟨name, d.bounds?.getD ""⟩

/-- A method under construction. -/
structure MethodDraft where
  name? : Option String
  typeParams? : Option (List TypeParam)
  params? : Option (List Param)

/-- The fields of a method. -/
def MethodDraft.shape : Shape MethodDraft where
  title := "struct UpdateStateMethod"
  entries := [
    textEntry "name" true (·.name?) fun d v => { d with name? := some v },
    optionalEntry "type_params" (readList TypeParam.read) (·.typeParams?)
      fun d v => { d with typeParams? := some v },
    optionalEntry "params" (readList Param.read) (·.params?)
      fun d v => { d with params? := some v }]

/-- Reads a method. -/
def Method.read : Reader Method := fun room t => do
  let d ← MethodDraft.shape.read ⟨none, none, none⟩ room t
  let name ← orMissing "name" d.name?
  return ⟨name, d.typeParams?.getD [], d.params?.getD []⟩

/-- Handles under construction. -/
structure HandlesDraft where
  context? : Option String
  component? : Option String
  container? : Option String
  update? : Option String
  runtime? : Option String

/-- The fields of the handles. -/
def HandlesDraft.shape : Shape HandlesDraft where
  title := "struct TypeHandles"
  entries := [
    textEntry "context" false (·.context?) fun d v => { d with context? := some v },
    textEntry "component" false (·.component?) fun d v => { d with component? := some v },
    textEntry "state_container" false (·.container?) fun d v => { d with container? := some v },
    textEntry "update_state_interface" false (·.update?) fun d v => { d with update? := some v },
    textEntry "runtime" false (·.runtime?) fun d v => { d with runtime? := some v }]

/-- Reads handles; each one that is missing is the standard one. -/
def Handles.read : Reader Handles := fun room t => do
  let d ← HandlesDraft.shape.read ⟨none, none, none, none, none⟩ room t
  let standard := Handles.standard
  return {
    context := d.context?.getD standard.context
    component := d.component?.getD standard.component
    container := d.container?.getD standard.container
    update := d.update?.getD standard.update
    runtime := d.runtime?.getD standard.runtime }

/-- A spec under construction. -/
structure SpecDraft where
  path? : Option String
  component? : Option String
  fields? : Option (List Field)
  methods? : Option (List Method)
  handles? : Option Handles
  isInjected? : Option Bool
  wantsMarker? : Option Bool

/-- The fields of a spec. -/
def SpecDraft.shape : Shape SpecDraft where
  title := "struct SpecModel"
  entries := [
    textEntry "name" true (·.path?) fun d v => { d with path? := some v },
    textEntry "component_name" true (·.component?) fun d v => { d with component? := some v },
    optionalEntry "state_values" (readList Field.read) (·.fields?)
      fun d v => { d with fields? := some v },
    optionalEntry "update_state_methods" (readList Method.read) (·.methods?)
      fun d v => { d with methods? := some v },
    optionalEntry "types" Handles.read (·.handles?) fun d v => { d with handles? := some v },
    boolEntry "injected_dependencies" (·.isInjected?) fun d v => { d with isInjected? := some v },
    boolEntry "generate_has_state" (·.wantsMarker?) fun d v => { d with wantsMarker? := some v }]

/-- Reads a spec. -/
def Spec.read : Reader Spec := fun room t => do
  let d ← SpecDraft.shape.read ⟨none, none, none, none, none, none, none⟩ room t
  let path ← orMissing "name" d.path?
  let component ← orMissing "component_name" d.component?
  return {
    path := path
    component := component
    fields := d.fields?.getD []
    methods := d.methods?.getD []
    handles := d.handles?.getD Handles.standard
    isInjected := d.isInjected?.getD false
    wantsMarker := d.wantsMarker?.getD true }

/-- The spec that a document describes. -/
def Spec.ofDocument (d : Document) : Except Problem Spec :=
  d.readAs Spec.read

/-- The spec that a text describes. -/
def Spec.ofText (s : String) : Except Problem Spec :=
  Spec.ofDocument (Document.read (Symbol.ofText s))

/-! ## 3. Writing -/

/-- The tree of a field. -/
def Field.toTree (f : Field) : Tree :=
  .ofPairs [("name", .ofString f.name), ("ty", .ofString f.type),
    ("can_update_lazily", .bool f.isLazy)]

/-- The tree of a parameter; the kind comes first. -/
def Param.toTree (p : Param) : Tree :=
  .ofPairs [("kind", .ofString p.role.kind), ("name", .ofString p.name),
    ("ty", .ofString p.type)]

/-- The tree of a type parameter. -/
def TypeParam.toTree (p : TypeParam) : Tree :=
  .ofPairs [("name", .ofString p.name), ("bounds", .ofString p.bounds)]

/-- The tree of a method; an empty list of type parameters is left out. -/
def Method.toTree (m : Method) : Tree :=
  let typeParams :=
    if m.typeParams.isEmpty then []
    else [("type_params", .ofValues TypeParam.toTree m.typeParams)]
  .ofPairs ([("name", .ofString m.name)] ++ typeParams ++
    [("params", .ofValues Param.toTree m.params)])

/-- The tree of handles. -/
def Handles.toTree (h : Handles) : Tree :=
  .ofPairs [("context", .ofString h.context), ("component", .ofString h.component),
    ("state_container", .ofString h.container),
    ("update_state_interface", .ofString h.update), ("runtime", .ofString h.runtime)]

/-- The tree of a spec. -/
def Spec.toTree (s : Spec) : Tree :=
  .ofPairs [("name", .ofString s.path), ("component_name", .ofString s.component),
    ("state_values", .ofValues Field.toTree s.fields),
    ("update_state_methods", .ofValues Method.toTree s.methods),
    ("types", s.handles.toTree), ("injected_dependencies", .bool s.isInjected),
    ("generate_has_state", .bool s.wantsMarker)]

/-- The text of a spec as a document. -/
def Spec.toText (s : Spec) : String :=
  String.ofList s.toTree.print

end Carryover
