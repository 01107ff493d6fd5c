/-
# What a document is made of

A document is read symbol by symbol.  A symbol is a character, or a byte of a file that is part
of no UTF-8 character; `ofBytes` finds the characters of a file.  Stray bytes are kept, because
a document may hold them where a text is skipped.
-/
namespace Carryover.Json

/-- A character of a document, or a byte that belongs to none. -/
inductive Symbol where
  | char (c : Char)
  | stray (b : UInt8)
  deriving DecidableEq, Repr

namespace Symbol

/-- The symbols of a text. -/
def ofText (s : String) : List Symbol :=
  s.toList.map .char

/-- The count of bytes that a symbol takes in UTF-8. -/
def width : Symbol → Nat
  | .char c => c.utf8Size
  | .stray _ => 1

/-- The six bits of a byte that continues a character. -/
def continuation? (b : UInt8) : Option Nat :=
  if 0x80 ≤ b.toNat && b.toNat < 0xC0 then some (b.toNat - 0x80) else none

/-- The bits of the next `count` bytes, all of which must continue a character, behind
`value`. -/
def continued? (value : Nat) : (count : Nat) → List UInt8 → Option Nat
  | 0, _ => some value
  | _ + 1, [] => none
  | count + 1, b :: bs =>
    match continuation? b with
    | none => none
    | some bits => continued? (value * 64 + bits) count bs

/-- The character that `b` begins, with the count of further bytes it takes.  Only the shortest
form of a code point that is no surrogate counts. -/
def begun? (b : UInt8) (bs : List UInt8) : Option (Char × Nat) :=
  let n := b.toNat
  let form : Option (Nat × Nat × Nat) :=
    if n < 0x80 then some (n, 0, 0)
    else if 0xC0 ≤ n && n < 0xE0 then some (n - 0xC0, 1, 0x80)
    else if 0xE0 ≤ n && n < 0xF0 then some (n - 0xE0, 2, 0x800)
    else if 0xF0 ≤ n && n < 0xF8 then some (n - 0xF0, 3, 0x10000)
    else none
  match form with
  | none => none
  | some (lead, count, least) =>
    match continued? lead count bs with
    | none => none
    | some code =>
      if least ≤ code ∧ code.isValidChar then some (Char.ofNat code, count) else none

/-- The symbols of bytes of which the first `skip` belong to a character already found. -/
def ofBytesFrom : (skip : Nat) → List UInt8 → List Symbol
  | _, [] => []
  | skip + 1, _ :: bs => ofBytesFrom skip bs
  | 0, b :: bs =>
    match begun? b bs with
    | some (c, count) => .char c :: ofBytesFrom count bs
    | none => .stray b :: ofBytesFrom 0 bs

/-- The symbols of a file. -/
def ofBytes (bs : List UInt8) : List Symbol :=
  ofBytesFrom 0 bs

end Symbol

end Carryover.Json
