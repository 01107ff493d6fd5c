/-
# Letter case

Upper and lower case of single characters by the full Unicode mappings, and the three
conversions of names that are built on them: `capitalize`, `toPascal` and `toSnake`.  Case is
decided character by character; no mapping looks at its neighbours.
-/
import Carryover.Text.Case.Table
import Carryover.Text.Split

namespace Carryover.Text.Case

/-! ## 1. Single characters -/

/-- Does the character have the Unicode property Uppercase? -/
def isUpper (c : Char) : Bool :=
  if c.toNat < 128 then c.isUpper else upperRuns.any (·.contains c.toNat)

/-- Does the character have the Unicode property Lowercase? -/
def isLower (c : Char) : Bool :=
  if c.toNat < 128 then c.isLower else lowerRuns.any (·.contains c.toNat)

/-- The image of a character: its expansion, else its run's shift, else itself. -/
def mapped (expansions : List (Nat × List Char)) (shifts : List Shift) (c : Char) : List Char :=
  match expansions.lookup c.toNat with
  | some cs => cs
  | none =>
    match shifts.find? (·.contains c.toNat) with
    | some s => [Char.ofNat (s.apply c.toNat)]
    | none => [c]

/-- The uppercase form of a character, one to three characters long. -/
def upper (c : Char) : List Char :=
  if c.toNat < 128 then [c.toUpper] else mapped upperExpansions upperShifts c

/-- The lowercase form of a character, one or two characters long. -/
def lower (c : Char) : List Char :=
  if c.toNat < 128 then [c.toLower] else mapped lowerExpansions lowerShifts c

/-! ## 2. Names -/

/-- The first character in upper case, the others as they are. -/
def capitalize : List Char → List Char
  | [] => []
  | c :: cs => upper c ++ cs

/-- The parts between underscores, each capitalised, put together without underscores. -/
def toPascal (cs : List Char) : List Char :=
  ((split (· == '_') cs).map capitalize).flatten

/-- A capital after such a character opens a new word. -/
def endsWord (c : Char) : Bool :=
  isLower c || c.isDigit

/-- `toSnake` after the character `previous`. -/
def toSnakeFrom (previous : Option Char) : List Char → List Char
  | [] => []
  | c :: cs =>
    let here :=
      if isUpper c then (if previous.any endsWord then ['_'] else []) ++ lower c else [c]
    here ++ toSnakeFrom (some c) cs

/-- Capitals in lower case, with an underscore before each one that follows a lowercase letter
or a digit; a run of capitals stays one word. -/
def toSnake (cs : List Char) : List Char :=
  toSnakeFrom none cs

end Carryover.Text.Case
