/-
# Decimals as text

Two ways to write a binary64 number with its shortest digits: `plain`, which never uses an
exponent, and `message`, which always shows a point or an exponent.
-/
import Carryover.Decimal.Shortest

namespace Carryover.Decimal

/-- Is the sign bit set? -/
def isNegative (bits : UInt64) : Bool :=
  decide (0x8000000000000000 ≤ bits.toNat)

/-- `n` zeros. -/
def zeros (n : Nat) : String :=
  String.ofList (List.replicate n '0')

/-- The digits with the point after the first `point` of them, filled up with zeros;
`fraction` is what stands after a whole number. -/
def positional (digits : List Char) (point : Int) (fraction : String) : String :=
  if point ≤ 0 then "0." ++ zeros (-point).toNat ++ String.ofList digits
  else if (digits.length : Int) ≤ point then
    String.ofList digits ++ zeros (point.toNat - digits.length) ++ fraction
  else String.ofList (digits.take point.toNat) ++ "." ++ String.ofList (digits.drop point.toNat)

/-- One digit before the point, then a signed exponent. -/
def scientific (digits : List Char) (power : Int) : String :=
  let mantissa :=
    match digits with
    | [] => ""
    | [d] => String.ofList [d]
    | d :: ds => String.ofList (d :: '.' :: ds)
  mantissa ++ (if power < 0 then "e-" else "e+") ++ toString power.natAbs

/-- The sign of a negative number, zero included. -/
def signOf (bits : UInt64) : String :=
  if isNegative bits then "-" else ""

/-- The number without an exponent; a whole number has no point. -/
def plain (bits : UInt64) : String :=
  let d := shortest .up bits
  let ds := Nat.toDigits 10 d.digits
  signOf bits ++
    if d.digits = 0 then "0" else positional ds (ds.length + d.power) ""

/-- The number as messages show it: with a point from 0.00001 up to below 10^16, else with an
exponent. -/
def message (bits : UInt64) : String :=
  let d := shortest .even bits
  let ds := Nat.toDigits 10 d.digits
  let leading := ds.length + d.power - 1
  signOf bits ++
    if d.digits = 0 then "0.0"
    else if -5 ≤ leading ∧ leading ≤ 15 then positional ds (leading + 1) ".0"
    else scientific ds leading

end Carryover.Decimal
