/-
# The value of a number

A whole number that fits 64 bits is an integer; minus zero and everything else is a binary64
number.  That one is computed with a significand of 64 bits: once it is full, further digits
only shift it.  It is scaled by powers of ten afterwards, so the value may be off in its last
place; a number that scales to infinity has no value.
-/
import Carryover.Json.Problem

namespace Carryover.Json

/-- The greatest significand. -/
def maxSignificand : Nat := 0xFFFFFFFFFFFFFFFF

/-- The greatest power of ten that is a binary64 number. -/
def maxPower : Nat := 308

/-! ## 1. Significands -/

/-- Appends digits as long as they fit; also the count of those that did not. -/
def absorb : (significand : Nat) → List (Fin 10) → Nat × Nat
  | n, [] => (n, 0)
  | n, d :: ds =>
    if maxSignificand < n * 10 + d.val then (n, ds.length + 1) else absorb (n * 10 + d.val) ds

/-- The number that digits spell. -/
def digitsValue (ds : List (Fin 10)) : Nat :=
  ds.foldl (fun (n : Nat) d => n * 10 + d.val) 0

/-! ## 2. Scaling -/

/-- A power of ten up to `maxPower`. -/
def powerOfTen (k : Nat) : Float :=
  Float.ofScientific 1 false k

/-- Divides by a power of ten, in steps that are numbers themselves. -/
def shrink (x : Float) (k : Nat) : Float :=
  if k ≤ maxPower then x / powerOfTen k
  else if x == 0.0 then x
  else shrink (x / powerOfTen maxPower) (k - maxPower)
termination_by k
decreasing_by simp_all [maxPower]; omega

/-- Multiplies by a power of ten, unless the result is too great. -/
def grow? (x : Float) (k : Nat) : Option Float :=
  if maxPower < k then (if x == 0.0 then some x else none)
  else
    let y := x * powerOfTen k
    if y.isInf then none else some y

/-- `significand · 10 ^ power` as a binary64 number. -/
def scale? (significand : Nat) (power : Int) : Option Float :=
  let x := (UInt64.ofNat significand).toFloat
  if 0 ≤ power then grow? x power.toNat else some (shrink x (-power).toNat)

/-! ## 3. Values -/

/-- Is the number spelled without a fraction and without an exponent? -/
def Literal.isWhole (l : Literal) : Bool :=
  l.fraction.isEmpty && l.exponent.isNone

/-- The power of ten that the exponent says. -/
def Literal.power (l : Literal) : Int :=
  match l.exponent with
  | none => 0
  | some e => if e.isNegative then -(digitsValue e.digits : Int) else digitsValue e.digits

/-- The value of a spelled number, if it is in range. -/
def Literal.value? (l : Literal) : Option Number :=
  let (n, dropped) := absorb 0 l.whole
  let isInteger := l.isWhole && dropped == 0 &&
    (!l.isNegative || (decide (0 < n) && decide (n ≤ 0x8000000000000000)))
  if isInteger then some (.integer (if l.isNegative then -(n : Int) else n))
  else
    let (n, unused) := absorb n l.fraction
    let power : Int := l.power + dropped - (l.fraction.length - unused : Nat)
    (scale? n power).map fun x => .float (if l.isNegative then -x else x).toBits

end Carryover.Json
