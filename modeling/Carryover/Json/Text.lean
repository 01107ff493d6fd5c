/-
# The characters of a text

`decode` finds the characters that the units of a text stand for; `encode` spells characters.
A code point above U+FFFF may be spelled by two hexadecimal units, a leading and a trailing
surrogate; neither of them stands for anything alone.
-/
import Carryover.Json.Problem

namespace Carryover.Json

/-! ## 1. Surrogates -/

/-- Does the unit begin a pair? -/
def isLeading (n : UInt16) : Bool :=
  decide (0xD800 ≤ n.toNat) && decide (n.toNat < 0xDC00)

/-- Does the unit end a pair? -/
def isTrailing (n : UInt16) : Bool :=
  decide (0xDC00 ≤ n.toNat) && decide (n.toNat < 0xE000)

/-- The character that a pair stands for. -/
def pairChar (lead trail : UInt16) : Char :=
  Char.ofNat (0x10000 + (lead.toNat - 0xD800) * 0x400 + (trail.toNat - 0xDC00))

/-! ## 2. Decoding -/

/-- The problem of a leading surrogate behind which the units end. -/
def leadingAtEnd : Option TextFault → Problem
  | some .ended => .unfinished .text
  | some .badHex => .breach .badEscape
  | _ => .breach .unpairedEscape

/-- The characters of units behind which the text ends or breaks off; a stray byte is a problem
once the text is complete. -/
def decodeUnits (broken : Option TextFault) :
    (hasStray : Bool) → List TextUnit → Except Problem (List Char)
  | hasStray, [] =>
    match broken with
    | some why => .error why.problem
    | none => if hasStray then .error (.breach .badCodePoint) else .ok []
  | hasStray, .plain c :: us => return c :: (← decodeUnits broken hasStray us)
  | _, .stray _ :: us => decodeUnits broken true us
  | hasStray, .short s :: us => return s.char :: (← decodeUnits broken hasStray us)
  | hasStray, .hex n :: us =>
    if isTrailing n then .error (.breach .loneSurrogate)
    else if isLeading n then
      match us with
      | [] => .error (leadingAtEnd broken)
      | .hex m :: us =>
        if isTrailing m then return pairChar n m :: (← decodeUnits broken hasStray us)
        else .error (.breach .loneSurrogate)
      | _ :: _ => .error (.breach .unpairedEscape)
    else return Char.ofNat n.toNat :: (← decodeUnits broken hasStray us)

/-- The text that complete units spell. -/
def decode (us : List TextUnit) : Except Problem String :=
  return String.ofList (← decodeUnits none false us)

/-- The problem that a reader who wants the value has with a fault. -/
def Fault.wanted : Fault → Problem
  | .text us why =>
    match decodeUnits (some why) false us with
    | .error p => p
    | .ok _ => why.problem
  | f => f.problem .wanted

/-- The problem that a reader who skips the value has with a fault. -/
def Fault.skipped (f : Fault) : Problem :=
  f.problem .skipped

/-! ## 3. Encoding -/

/-- The unit that spells a character: the short form of a quote, a backslash and five controls,
four digits for the other controls, and otherwise the character itself. -/
def encodeChar (c : Char) : TextUnit :=
  if c = '"' then .short .quote
  else if c = '\\' then .short .backslash
  else if c = '\x08' then .short .backspace
  else if c = '\x0c' then .short .formFeed
  else if c = '\n' then .short .lineFeed
  else if c = '\r' then .short .carriageReturn
  else if c = '\t' then .short .tab
  else if c.toNat < 0x20 then .hex (UInt16.ofNat c.toNat)
  else .plain c

/-- The units that spell a text. -/
def encode (s : String) : List TextUnit :=
  s.toList.map encodeChar

/-! ## 4. Building trees -/

/-- The tree of a text. -/
def Tree.ofString (s : String) : Tree :=
  .text (encode s)

/-- The tree of an object with these members. -/
def Tree.ofPairs (members : List (String × Tree)) : Tree :=
  .object (Members.ofList (members.map fun m => (encode m.1, m.2)))

/-- The tree of a list with one element for each value. -/
def Tree.ofValues {α : Type} (toTree : α → Tree) (values : List α) : Tree :=
  .list (Items.ofList (values.map toTree))

end Carryover.Json
