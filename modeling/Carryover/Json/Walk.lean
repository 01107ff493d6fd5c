/-
# Walking a document tree

Three ways to take in a tree, each from left to right and up to the first problem: *wanted*
values are matched against what is asked for, *held* values are checked through and through
before anybody asks, and *skipped* values only have to be grammatical.  On top of these stand
the readers for lists and records; a record may be written as an object or as the list of its
fields.
-/
import Carryover.Json.Number
import Carryover.Json.Reader
import Carryover.Json.Text

namespace Carryover.Json

/-! ## 1. One value -/

/-- The value of a wanted or held number. -/
def Literal.value (l : Literal) : Except Problem Number :=
  match l.value? with
  | some n => .ok n
  | none => .error (.breach .outOfRange)

/-- What a wanted value is, as far as it shows from outside. -/
def Tree.found : Tree → Except Problem Found
  | .null => .ok .null
  | .bool b => .ok (.bool b)
  | .number l => return .number (← l.value)
  | .text us => return .text (← decode us)
  | .list _ => .ok .list
  | .object _ => .ok .object
  | .fault f => .error f.wanted

/-- A value of another type than the wanted one. -/
def Found.isNot {α : Type} (found : Found) (wanted : String) : Except Problem α :=
  .error (.mismatch (.wrongType found wanted))

/-- The text that a value is. -/
def Found.asText : Found → Except Problem String
  | .text s => .ok s
  | found => found.isNot "a string"

/-- The text that a wanted value is. -/
def Tree.asText (t : Tree) : Except Problem String := do
  (← t.found).asText

/-- The truth value that a wanted value is. -/
def Tree.asBool (t : Tree) : Except Problem Bool := do
  match ← t.found with
  | .bool b => return b
  | found => found.isNot "a boolean"

/-! ## 2. Nesting -/

/-- How many lists and objects may be open at once, less one. -/
def maxNesting : Nat := 128

/-- Opens a list or object: what is left of the `room` for those inside it. -/
def enter (room : Nat) : Except Problem Nat :=
  if room ≤ 1 then .error (.breach .tooDeep) else .ok (room - 1)

/-! ## 3. Held values -/

mutual

/-- Checks a held value. -/
def Tree.hold (room : Nat) : Tree → Except Problem Found
  | .list items => do
    discard (items.hold (← enter room))
    return .list
  | .object members => do
    discard (members.hold (← enter room))
    return .object
  | .null => .ok .null
  | .bool b => .ok (.bool b)
  | .number l => return .number (← l.value)
  | .text us => return .text (← decode us)
  | .fault f => .error f.wanted

/-- Checks held elements; what each one is. -/
def Items.hold (room : Nat) : Items → Except Problem (List Found)
  | .close => .ok []
  | .stop f => .error f.wanted
  | .more t rest => do
    let found ← t.hold room
    return found :: (← rest.hold room)

/-- Checks held members; the key of each one and what it is. -/
def Members.hold (room : Nat) : Members → Except Problem (List (String × Found))
  | .close => .ok []
  | .stop f => .error f.wanted
  | .more us t rest => do
    let key ← decode us
    let found ← t.hold room
    return (key, found) :: (← rest.hold room)

end

/-! ## 4. Skipped values -/

mutual

/-- Passes over a value. -/
def Tree.skip : Tree → Except Problem Unit
  | .list items => items.skip
  | .object members => members.skip
  | .fault f => .error f.skipped
  | _ => .ok ()

/-- Passes over the elements of a list. -/
def Items.skip : Items → Except Problem Unit
  | .close => .ok ()
  | .stop f => .error f.skipped
  | .more t rest => do
    t.skip
    rest.skip

/-- Passes over the members of an object. -/
def Members.skip : Members → Except Problem Unit
  | .close => .ok ()
  | .stop f => .error f.skipped
  | .more _ t rest => do
    t.skip
    rest.skip

end

/-! ## 5. Lists -/

/-- A reader of wanted values, told how much room there is for nesting. -/
abbrev Reader (α : Type) := Nat → Tree → Except Problem α

/-- Reads every element. -/
def Items.readEach {α : Type} (read : Tree → Except Problem α) : Items → Except Problem (List α)
  | .close => .ok []
  | .stop f => .error f.wanted
  | .more t rest => do
    let a ← read t
    return a :: (← rest.readEach read)

/-- A list of values that `read` reads. -/
def readList {α : Type} (read : Reader α) : Reader (List α) := fun room t =>
  match t with
  | .list items => do
    let room ← enter room
    items.readEach (read room)
  | t => do (← t.found).isNot "a sequence"

/-! ## 6. Records -/

/-- One field of a record that is collected in a draft. -/
structure Entry (δ : Type) where
  key : String
  /-- Must the field be there? -/
  isRequired : Bool
  /-- Has the draft the field already? -/
  isSet : δ → Bool
  /-- Reads the field into the draft. -/
  set : Nat → Tree → δ → Except Problem δ

/-- How a record is written. -/
structure Shape (δ : Type) where
  title : String
  /-- The fields, in the order in which a list gives them. -/
  entries : List (Entry δ)

/-- A count of elements in words. -/
def elements (n : Nat) : String :=
  if n = 1 then "1 element" else toString n ++ " elements"

namespace Shape

variable {δ : Type}

/-- What a list in place of the record had to be. -/
def wantedList (s : Shape δ) : String :=
  s.title ++ " with " ++ elements s.entries.length

/-- Reads the members of an object.  A key that is known and new is read, a known one that was
there before is refused before its value is looked at, and what is under an unknown key is
skipped. -/
def readMembers (s : Shape δ) (room : Nat) : Members → δ → Except Problem δ
  | .close, draft => .ok draft
  | .stop f, _ => .error f.wanted
  | .more us t rest, draft => do
    let key ← decode us
    match s.entries.find? (·.key == key) with
    | some e =>
      if e.isSet draft then .error (.mismatch (.duplicateField key))
      else s.readMembers room rest (← e.set room t draft)
    | none => do
      t.skip
      s.readMembers room rest draft

/-- How a list must end behind the last field. -/
def readEnd : Items → Except Problem Unit
  | .close => .ok ()
  | .stop .endInList => .error (.unfinished .list)
  | .stop .commaBeforeBracket => .error (.breach .trailingComma)
  | _ => .error (.breach .trailing)

/-- Refuses a list that ends after `index` fields if one of the remaining ones is required. -/
def checkMissing (s : Shape δ) : (index : Nat) → List (Entry δ) → Except Problem Unit
  | _, [] => .ok ()
  | index, e :: es =>
    if e.isRequired then .error (.mismatch (.wrongLength index s.wantedList))
    else s.checkMissing (index + 1) es

/-- Reads the fields from a list, the first of them at `index`. -/
def readItems (s : Shape δ) (room : Nat) :
    (index : Nat) → List (Entry δ) → Items → δ → Except Problem δ
  | _, [], items, draft => do
    readEnd items
    return draft
  | index, e :: es, .close, draft => do
    s.checkMissing index (e :: es)
    return draft
  | _, _ :: _, .stop f, _ => .error f.wanted
  | index, e :: es, .more t rest, draft => do
    s.readItems room (index + 1) es rest (← e.set room t draft)

/-- Reads a record into a draft that starts empty. -/
def read (s : Shape δ) (empty : δ) : Reader δ := fun room t =>
  match t with
  | .list items => do
    let room ← enter room
    s.readItems room 0 s.entries items empty
  | .object members => do
    let room ← enter room
    s.readMembers room members empty
  | t => do (← t.found).isNot s.title

end Shape

/-- A field that has to be in the draft. -/
def orMissing {α : Type} (key : String) : Option α → Except Problem α
  | some a => .ok a
  | none => .error (.mismatch (.missingField key))

/-! ## 7. Documents -/

/-- Reads a whole document.  What is behind its value is looked at last. -/
def Document.readAs {α : Type} (read : Reader α) (d : Document) : Except Problem α := do
  let a ← read maxNesting d.root
  match d.ending with
  | .clean => return a
  | .fault f => .error f.wanted
  | .trailing => .error (.breach .trailing)

end Carryover.Json
