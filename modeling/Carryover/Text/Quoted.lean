/-
# Quoted texts in messages

`quote` writes a text between double quotes so that every character of it can be seen: a
quote, a backslash and the usual controls by a backslash and a letter, every other character
without a printed form of its own, and every one that would attach to its neighbour, by its
code point in hexadecimal.
-/
import Carryover.Text.Quoted.Table

namespace Carryover.Text.Quoted

/-- Is the code point in one of the ranges? -/
def inRanges (ranges : List (Nat × Nat)) (n : Nat) : Bool :=
  ranges.any fun r => decide (r.1 ≤ n) && decide (n ≤ r.2)

/-- Is the character written by its code point? -/
def isSpelled (c : Char) : Bool :=
  if 0x20 ≤ c.toNat && c.toNat < 0x7F then false
  else inRanges extending c.toNat || inRanges unprintable c.toNat

/-- A backslash, the letter u and the code point between braces. -/
def spell (c : Char) : List Char :=
  ['\\', 'u', '\x7b'] ++ Nat.toDigits 16 c.toNat ++ ['\x7d']

/-- One character between quotes. -/
def encodeChar (c : Char) : List Char :=
  if c = '"' then ['\\', '"']
  else if c = '\\' then ['\\', '\\']
  else if c = '\n' then ['\\', 'n']
  else if c = '\r' then ['\\', 'r']
  else if c = '\t' then ['\\', 't']
  else if c = '\x00' then ['\\', '0']
  else if isSpelled c then spell c
  else [c]

/-- The text between double quotes. -/
def encode (cs : List Char) : List Char :=
  '"' :: (cs.flatMap encodeChar ++ ['"'])

end Carryover.Text.Quoted

namespace Carryover.Text

/-- The text between double quotes, with every character of it visible. -/
def quote (s : String) : String :=
  String.ofList (Quoted.encode s.toList)

end Carryover.Text
