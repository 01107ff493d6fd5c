/-
# Reading documents

The grammar of JSON as a reader from symbols to trees.  It knows nothing of what the document
is for: which keys are wanted, how deep lists may nest and which numbers have a value is
decided by whoever walks the tree.  Each step answers with a tree and with the symbols that
remain, or with the fault at which it stopped.
-/
import Carryover.Json.Tree

namespace Carryover.Json

/-- What remains to be read, unless a fault stopped the reading. -/
abbrev Rest := Except Fault (List Symbol)

/-! ## 1. White space, words and digits -/

/-- Is the symbol white space between tokens? -/
def isSpace (s : Symbol) : Bool :=
  s == .char ' ' || s == .char '\n' || s == .char '\t' || s == .char '\r'

/-- The symbols from the next token on. -/
def skipSpace (s : List Symbol) : List Symbol :=
  s.dropWhile isSpace

/-- Reads the rest of a word whose first letter was seen. -/
def readWord : (letters : List Char) → List Symbol → Rest
  | [], s => .ok s
  | _ :: _, [] => .error .endInWord
  | c :: cs, x :: s => if x = .char c then readWord cs s else .error .badWord

/-- The value of a decimal digit. -/
def digit? : Symbol → Option (Fin 10)
  | .stray _ => none
  | .char c => if c.isDigit then some (Fin.ofNat 10 (c.toNat - 48)) else none

/-- The digits at the front, and what follows them. -/
def spanDigits : List Symbol → List (Fin 10) × List Symbol
  | [] => ([], [])
  | x :: s =>
    match digit? x with
    | none => ([], x :: s)
    | some d =>
      let (ds, rest) := spanDigits s
      (d :: ds, rest)

/-! ## 2. Numbers -/

/-- The fault of a number in which a digit is missing before these symbols. -/
def missingDigit : List Symbol → Fault
  | [] => .endInNumber
  | _ :: _ => .badNumber

/-- The digits before the point; a zero stands alone. -/
def readWhole (s : List Symbol) : Except Fault (List (Fin 10) × List Symbol) :=
  match spanDigits s with
  | ([], rest) => .error (missingDigit rest)
  | (0 :: _ :: _, _) => .error .badNumber
  | (ds, rest) => .ok (ds, rest)

/-- The point and the digits behind it, if a point is there. -/
def readFraction : List Symbol → Except Fault (List (Fin 10) × List Symbol)
  | .char '.' :: s =>
    match spanDigits s with
    | ([], rest) => .error (missingDigit rest)
    | (ds, rest) => .ok (ds, rest)
  | s => .ok ([], s)

/-- The sign of an exponent, which may be left out. -/
def readSign : List Symbol → Bool × List Symbol
  | .char '+' :: s => (false, s)
  | .char '-' :: s => (true, s)
  | s => (false, s)

/-- The exponent behind its mark. -/
def readExponentDigits (s : List Symbol) : Except Fault (Option Exponent × List Symbol) :=
  let (isNegative, s) := readSign s
  match spanDigits s with
  | ([], rest) => .error (missingDigit rest)
  | (ds, rest) => .ok (some ⟨isNegative, ds⟩, rest)

/-- The exponent, if one is there. -/
def readExponent : List Symbol → Except Fault (Option Exponent × List Symbol)
  | .char 'e' :: s => readExponentDigits s
  | .char 'E' :: s => readExponentDigits s
  | s => .ok (none, s)

/-- A number behind its sign. -/
def readNumber (isNegative : Bool) (s : List Symbol) : Except Fault (Literal × List Symbol) := do
  let (whole, s) ← readWhole s
  let (fraction, s) ← readFraction s
  let (exponent, s) ← readExponent s
  return (⟨isNegative, whole, fraction, exponent⟩, s)

/-! ## 3. Texts -/

/-- The value of a hexadecimal digit. -/
def hexDigit? : Symbol → Option Nat
  | .stray _ => none
  | .char c =>
    if c.isDigit then some (c.toNat - 48)
    else if 'a' ≤ c && c ≤ 'f' then some (c.toNat - 87)
    else if 'A' ≤ c && c ≤ 'F' then some (c.toNat - 55)
    else none

/-- The sixteen bit unit that four hexadecimal digits spell. -/
def hexUnit? (a b c d : Symbol) : Option UInt16 := do
  return UInt16.ofNat ((((← hexDigit? a) * 16 + (← hexDigit? b)) * 16 + (← hexDigit? c)) * 16 +
    (← hexDigit? d))

/-- The fault when there are not four symbols left for the digits.  Four bytes are enough to
see that they are no digits; with fewer the text has ended. -/
def shortHexFault (s : List Symbol) : TextFault :=
  if s.foldr (fun x n => x.width + n) 0 < 4 then .ended else .badHex

/-- The units of a text up to the closing quote, and what follows it. -/
def readText : List Symbol → List TextUnit × Except TextFault (List Symbol)
  | [] => ([], .error .ended)
  | .stray b :: s =>
    let (us, rest) := readText s
    (.stray b :: us, rest)
  | .char c :: s =>
    if c = '"' then ([], .ok s)
    else if c = '\\' then
      match s with
      | [] => ([], .error .ended)
      | .char 'u' :: a :: b :: c :: d :: s =>
        match hexUnit? a b c d with
        | none => ([], .error .badHex)
        | some n =>
          let (us, rest) := readText s
          (.hex n :: us, rest)
      | .char 'u' :: s => ([], .error (shortHexFault s))
      | .stray _ :: _ => ([], .error .unknownEscape)
      | .char letter :: s =>
        match Short.ofLetter? letter with
        | none => ([], .error .unknownEscape)
        | some e =>
          let (us, rest) := readText s
          (.short e :: us, rest)
    else if c.toNat < 0x20 then ([], .error .control)
    else
      let (us, rest) := readText s
      (.plain c :: us, rest)

/-! ## 4. Values -/

/-- A value that the fault leaves no room for. -/
def cut (f : Fault) : Tree × Rest :=
  (.fault f, .error f)

/-- A value made of nothing but one word. -/
def word (t : Tree) : Rest → Tree × Rest
  | .ok s => (t, .ok s)
  | .error f => cut f

/-- A number read from behind its sign. -/
def number (isNegative : Bool) (s : List Symbol) : Tree × Rest :=
  match readNumber isNegative s with
  | .ok (l, rest) => (.number l, .ok rest)
  | .error f => cut f

mutual

/-- Reads a value.  `fuel` bounds the steps; twice the count of symbols and two are always
enough. -/
def readValue : (fuel : Nat) → List Symbol → Tree × Rest
  | 0, _ => cut .endBeforeValue
  | fuel + 1, s =>
    match skipSpace s with
    | [] => cut .endBeforeValue
    | .stray _ :: _ => cut .notAValue
    | .char c :: s =>
      if c = 'n' then word .null (readWord ['u', 'l', 'l'] s)
      else if c = 't' then word (.bool true) (readWord ['r', 'u', 'e'] s)
      else if c = 'f' then word (.bool false) (readWord ['a', 'l', 's', 'e'] s)
      else if c = '-' then number true s
      else if c.isDigit then number false (.char c :: s)
      else if c = '"' then
        match readText s with
        | (us, .ok rest) => (.text us, .ok rest)
        | (us, .error why) => cut (.text us why)
      else if c = '[' then
        match skipSpace s with
        | [] => (.list (.stop .endInList), .error .endInList)
        | .char ']' :: s => (.list .close, .ok s)
        | s =>
          let (items, rest) := readItems fuel s
          (.list items, rest)
      else if c = '\x7b' then
        match skipSpace s with
        | [] => (.object (.stop .endInObject), .error .endInObject)
        | .char '\x7d' :: s => (.object .close, .ok s)
        | s =>
          let (members, rest) := readMembers fuel s
          (.object members, rest)
      else cut .notAValue

/-- Reads the elements of a list from where an element must begin. -/
def readItems : (fuel : Nat) → List Symbol → Items × Rest
  | 0, _ => (.stop .endInList, .error .endInList)
  | fuel + 1, s =>
    match readValue fuel s with
    | (t, .error f) => (.more t (.stop f), .error f)
    | (t, .ok s) =>
      match skipSpace s with
      | [] => (.more t (.stop .endInList), .error .endInList)
      | .char ']' :: s => (.more t .close, .ok s)
      | .char ',' :: s =>
        match skipSpace s with
        | .char ']' :: _ => (.more t (.stop .commaBeforeBracket), .error .commaBeforeBracket)
        | s =>
          let (items, rest) := readItems fuel s
          (.more t items, rest)
      | _ :: _ => (.more t (.stop .notAComma), .error .notAComma)

/-- Reads the members of an object from where a key must begin. -/
def readMembers : (fuel : Nat) → List Symbol → Members × Rest
  | 0, _ => (.stop .endInObject, .error .endInObject)
  | fuel + 1, .char '"' :: s =>
    match readText s with
    | (us, .error why) => (.stop (.text us why), .error (.text us why))
    | (us, .ok s) =>
      match skipSpace s with
      | [] => (.more us (.fault .endBeforeColon) (.stop .endBeforeColon), .error .endBeforeColon)
      | .char ':' :: s =>
        match readValue fuel s with
        | (t, .error f) => (.more us t (.stop f), .error f)
        | (t, .ok s) =>
          match skipSpace s with
          | [] => (.more us t (.stop .endInObject), .error .endInObject)
          | .char '\x7d' :: s => (.more us t .close, .ok s)
          | .char ',' :: s =>
            match skipSpace s with
            | [] => (.more us t (.stop .endAfterComma), .error .endAfterComma)
            | .char '\x7d' :: _ =>
              (.more us t (.stop .commaBeforeBrace), .error .commaBeforeBrace)
            | s =>
              let (members, rest) := readMembers fuel s
              (.more us t members, rest)
          | _ :: _ => (.more us t (.stop .notAMemberEnd), .error .notAMemberEnd)
      | _ :: _ => (.more us (.fault .notAColon) (.stop .notAColon), .error .notAColon)
  | _ + 1, _ => (.stop .notAKey, .error .notAKey)

end

/-! ## 5. Documents -/

/-- How a document ends behind its value. -/
inductive Ending where
  | clean
  | fault (f : Fault)
  /-- Something other than white space follows. -/
  | trailing
  deriving DecidableEq, Repr

/-- A document: one value, and how the text ends behind it. -/
structure Document where
  root : Tree
  ending : Ending
  deriving DecidableEq, Repr

/-- Reads a document. -/
def Document.read (s : List Symbol) : Document :=
  match readValue (2 * s.length + 2) s with
  | (root, .error f) => ⟨root, .fault f⟩
  | (root, .ok rest) => ⟨root, if (skipSpace rest).isEmpty then .clean else .trailing⟩

end Carryover.Json
