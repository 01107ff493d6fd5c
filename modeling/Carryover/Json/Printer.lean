/-
# Writing documents

The text of a tree, without white space between tokens.  A fault has no text, and a stray byte
none that is made of characters.
-/
import Carryover.Json.Tree

namespace Carryover.Json

/-- A hexadecimal digit in lower case. -/
def hexDigit (n : Nat) : Char :=
  if n < 10 then Char.ofNat (48 + n) else Char.ofNat (87 + n)

/-- One unit of a text. -/
def TextUnit.print : TextUnit → List Char
  | .plain c => [c]
  | .stray _ => []
  | .short s => ['\\', s.letter]
  | .hex n =>
    let n := n.toNat
    ['\\', 'u', hexDigit (n / 4096 % 16), hexDigit (n / 256 % 16), hexDigit (n / 16 % 16),
      hexDigit (n % 16)]

/-- A text between its quotes. -/
def printText (us : List TextUnit) : List Char :=
  '"' :: (us.flatMap TextUnit.print ++ ['"'])

/-- Decimal digits. -/
def printDigits (ds : List (Fin 10)) : List Char :=
  ds.map fun d => Char.ofNat (48 + d.val)

/-- A minus sign, if there is one. -/
def printSign (isNegative : Bool) : List Char :=
  if isNegative then ['-'] else []

/-- A number. -/
def Literal.print (l : Literal) : List Char :=
  let fraction := if l.fraction.isEmpty then [] else '.' :: printDigits l.fraction
  let exponent :=
    match l.exponent with
    | none => []
    | some e => 'e' :: (printSign e.isNegative ++ printDigits e.digits)
  printSign l.isNegative ++ printDigits l.whole ++ fraction ++ exponent

mutual

/-- A value. -/
def Tree.print : Tree → List Char
  | .null => "null".toList
  | .bool true => "true".toList
  | .bool false => "false".toList
  | .number l => l.print
  | .text us => printText us
  | .list items => '[' :: items.print true
  | .object members => '\x7b' :: members.print true
  | .fault _ => []

/-- The elements of a list and its end; a comma stands before each but the first. -/
def Items.print (isFirst : Bool) : Items → List Char
  | .close => [']']
  | .stop _ => []
  | .more t rest => (if isFirst then [] else [',']) ++ t.print ++ rest.print false

/-- The members of an object and its end. -/
def Members.print (isFirst : Bool) : Members → List Char
  | .close => ['\x7d']
  | .stop _ => []
  | .more key value rest =>
    (if isFirst then [] else [',']) ++ printText key ++ ':' :: (value.print ++ rest.print false)

end

end Carryover.Json
