/-
# Document trees

The tree of a document, down to the spelling of its texts and numbers.  A document that breaks
off has a tree too: reading stops at the first fault of the grammar, the fault stands where it
was met, and every list and object that was open there ends with it.  So whoever walks a tree
from left to right meets the fault exactly where a reader of the text would.
-/
import Carryover.Json.Symbol

namespace Carryover.Json

/-! ## 1. Texts -/

/-- The characters that a backslash and a letter stand for. -/
inductive Short where
  | quote | backslash | slash | backspace | formFeed | lineFeed | carriageReturn | tab
  deriving DecidableEq, Repr

/-- The letter behind the backslash. -/
def Short.letter : Short → Char
  | .quote => '"'
  | .backslash => '\\'
  | .slash => '/'
  | .backspace => 'b'
  | .formFeed => 'f'
  | .lineFeed => 'n'
  | .carriageReturn => 'r'
  | .tab => 't'

/-- The character that is meant. -/
def Short.char : Short → Char
  | .quote => '"'
  | .backslash => '\\'
  | .slash => '/'
  | .backspace => '\x08'
  | .formFeed => '\x0c'
  | .lineFeed => '\n'
  | .carriageReturn => '\r'
  | .tab => '\t'

/-- The short form that a letter behind a backslash begins. -/
def Short.ofLetter? : Char → Option Short
  | '"' => some .quote
  | '\\' => some .backslash
  | '/' => some .slash
  | 'b' => some .backspace
  | 'f' => some .formFeed
  | 'n' => some .lineFeed
  | 'r' => some .carriageReturn
  | 't' => some .tab
  | _ => none

/-- One unit of a text as it is spelled. -/
inductive TextUnit where
  /-- A character that stands for itself. -/
  | plain (c : Char)
  /-- A byte that belongs to no character. -/
  | stray (b : UInt8)
  | short (s : Short)
  /-- Four hexadecimal digits: one sixteen bit unit. -/
  | hex (n : UInt16)
  deriving DecidableEq, Repr

/-- Why a text breaks off. -/
inductive TextFault where
  | ended
  /-- A backslash before no known letter. -/
  | unknownEscape
  /-- Fewer than four hexadecimal digits. -/
  | badHex
  /-- A control character that stands for itself. -/
  | control
  deriving DecidableEq, Repr

/-! ## 2. Numbers -/

/-- The exponent of a number. -/
structure Exponent where
  isNegative : Bool
  digits : List (Fin 10)
  deriving DecidableEq, Repr

/-- A number as it is spelled; without a fraction there are no digits behind the point. -/
structure Literal where
  isNegative : Bool
  whole : List (Fin 10)
  fraction : List (Fin 10)
  exponent : Option Exponent
  deriving DecidableEq, Repr

/-! ## 3. Faults -/

/-- Where and why reading stops. -/
inductive Fault where
  /-- The text ends where a value must begin. -/
  | endBeforeValue
  /-- No value begins with this symbol. -/
  | notAValue
  | endInWord
  /-- Something that begins like `true`, `false` or `null`. -/
  | badWord
  | endInNumber
  | badNumber
  | text (units : List TextUnit) (why : TextFault)
  | endBeforeColon
  | notAColon
  | endInList
  /-- Neither a comma nor the end of the list behind an element. -/
  | notAComma
  | commaBeforeBracket
  | endInObject
  /-- Neither a comma nor the end of the object behind a member. -/
  | notAMemberEnd
  | notAKey
  | commaBeforeBrace
  /-- The text ends behind a comma in an object. -/
  | endAfterComma
  deriving DecidableEq, Repr

/-! ## 4. Trees -/

mutual

/-- A value of a document. -/
inductive Tree where
  | null
  | bool (b : Bool)
  | number (l : Literal)
  | text (units : List TextUnit)
  | list (items : Items)
  | object (members : Members)
  | fault (f : Fault)

/-- The elements of a list. -/
inductive Items where
  | close
  | more (t : Tree) (rest : Items)
  | stop (f : Fault)

/-- The members of an object. -/
inductive Members where
  | close
  | more (key : List TextUnit) (value : Tree) (rest : Members)
  | stop (f : Fault)

end

deriving instance DecidableEq, Repr for Tree, Items, Members

/-- The items of a list of trees. -/
def Items.ofList : List Tree → Items
  | [] => .close
  | t :: ts => .more t (ofList ts)

/-- The members of a list of keys and values. -/
def Members.ofList : List (List TextUnit × Tree) → Members
  | [] => .close
  | (key, value) :: ms => .more key value (ofList ms)

end Carryover.Json
