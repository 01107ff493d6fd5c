/-
# What can be wrong with a document

A document may end too early, break the grammar, or say something else than was wanted.  The
wording of each problem is in `Problem.message`.  Two readers word a fault of the grammar
differently: one that wants the value, and one that only skips it.
-/
import Carryover.Decimal.Notation
import Carryover.Json.Tree
import Carryover.Text.Quoted

namespace Carryover.Json

/-! ## 1. Problems -/

/-- What was being read when the text ended. -/
inductive Unfinished where
  | value | object | list | text
  deriving DecidableEq, Repr

/-- A breach of the grammar. -/
inductive Breach where
  | notAValue | badWord | notAColon | notAMemberEnd | notAComma | notAKey | trailingComma
  | trailing | badEscape | badNumber | outOfRange | loneSurrogate | unpairedEscape | control
  | tooDeep | badCodePoint
  deriving DecidableEq, Repr

/-- The value of a number in a document. -/
inductive Number where
  | integer (i : Int)
  /-- The bits of a binary64 number. -/
  | float (bits : UInt64)
  deriving DecidableEq, Repr

/-- A value as a reader sees it that does not look inside lists and objects. -/
inductive Found where
  | null
  | bool (b : Bool)
  | number (n : Number)
  | text (s : String)
  | list
  | object
  deriving DecidableEq, Repr

/-- The value as a message names it. -/
def Found.describe : Found → String
  | .null => "null"
  | .bool true => "boolean `true`"
  | .bool false => "boolean `false`"
  | .number (.integer i) => "integer `" ++ toString i ++ "`"
  | .number (.float bits) => "floating point `" ++ Decimal.message bits ++ "`"
  | .text s => "string " ++ Text.quote s
  | .list => "sequence"
  | .object => "map"

/-- A grammatical document that does not say what was wanted. -/
inductive Mismatch where
  | missingField (key : String)
  | duplicateField (key : String)
  | wrongType (found : Found) (wanted : String)
  | unknownVariant (name : String) (wanted : String)
  | wrongLength (found : Nat) (wanted : String)
  deriving DecidableEq, Repr

/-- Why a document is not accepted. -/
inductive Problem where
  | unfinished (what : Unfinished)
  | breach (b : Breach)
  | mismatch (m : Mismatch)
  deriving DecidableEq, Repr

/-! ## 2. Wording -/

/-- The wording of a breach. -/
def Breach.message : Breach → String
  | .notAValue => "expected value"
  | .badWord => "expected ident"
  | .notAColon => "expected `:`"
  | .notAMemberEnd => "expected `,` or `\x7d`"
  | .notAComma => "expected `,` or `]`"
  | .notAKey => "key must be a string"
  | .trailingComma => "trailing comma"
  | .trailing => "trailing characters"
  | .badEscape => "invalid escape"
  | .badNumber => "invalid number"
  | .outOfRange => "number out of range"
  | .loneSurrogate => "lone leading surrogate in hex escape"
  | .unpairedEscape => "unexpected end of hex escape"
  | .control => "control character (\\u0000-\\u001F) found while parsing a string"
  | .tooDeep => "recursion limit exceeded"
  | .badCodePoint => "invalid unicode code point"

/-- The wording of a mismatch. -/
def Mismatch.message : Mismatch → String
  | .missingField key => "missing field `" ++ key ++ "`"
  | .duplicateField key => "duplicate field `" ++ key ++ "`"
  | .wrongType found wanted => "invalid type: " ++ found.describe ++ ", expected " ++ wanted
  | .unknownVariant name wanted => "unknown variant `" ++ name ++ "`, expected " ++ wanted
  | .wrongLength found wanted =>
    "invalid length " ++ toString found ++ ", expected " ++ wanted

/-- The wording of a problem. -/
def Problem.message : Problem → String
  | .unfinished .value => "EOF while parsing a value"
  | .unfinished .object => "EOF while parsing an object"
  | .unfinished .list => "EOF while parsing a list"
  | .unfinished .text => "EOF while parsing a string"
  | .breach b => b.message
  | .mismatch m => m.message

/-! ## 3. Faults as problems -/

/-- Is a value wanted, or is it only skipped? -/
inductive Manner where
  | wanted
  | skipped
  deriving DecidableEq, Repr

/-- The problem of a text that breaks off. -/
def TextFault.problem : TextFault → Problem
  | .ended => .unfinished .text
  | .unknownEscape => .breach .badEscape
  | .badHex => .breach .badEscape
  | .control => .breach .control

/-- The problem that a fault is to a reader; the units of a text that breaks off are looked at
elsewhere. -/
def Fault.problem (manner : Manner) : Fault → Problem
  | .endBeforeValue => .unfinished .value
  | .notAValue => .breach .notAValue
  | .endInWord => .unfinished .value
  | .badWord => .breach .badWord
  | .endInNumber =>
    match manner with
    | .wanted => .unfinished .value
    | .skipped => .breach .badNumber
  | .badNumber => .breach .badNumber
  | .text _ why => why.problem
  | .endBeforeColon => .unfinished .object
  | .notAColon => .breach .notAColon
  | .endInList => .unfinished .list
  | .notAComma => .breach .notAComma
  | .commaBeforeBracket =>
    match manner with
    | .wanted => .breach .trailingComma
    | .skipped => .breach .notAValue
  | .endInObject => .unfinished .object
  | .notAMemberEnd => .breach .notAMemberEnd
  | .notAKey => .breach .notAKey
  | .commaBeforeBrace =>
    match manner with
    | .wanted => .breach .trailingComma
    | .skipped => .breach .notAKey
  | .endAfterComma =>
    match manner with
    | .wanted => .unfinished .value
    | .skipped => .unfinished .object

end Carryover.Json
