/-
# The shortest decimal of a binary fraction

A finite binary64 number stands for every real that rounds to it.  `shortest` finds the
decimal with the fewest digits among those, and of two with equally few the nearer one; who
asks says what happens at the same distance.  The arithmetic is exact, on natural numbers: the
number and the two ends of its interval are written over one denominator.
-/
namespace Carryover.Decimal

/-- Which of two equally near decimals is taken. -/
inductive Tie where
  /-- The greater one. -/
  | up
  /-- The one whose last digit is even. -/
  | even
  deriving DecidableEq, Repr

/-! ## 1. The number and its interval -/

/-- A finite binary64 number without its sign: `significand · 2 ^ exponent`. -/
structure Binary where
  significand : Nat
  exponent : Int
  /-- Is the neighbour below at half the usual distance? -/
  isPower : Bool
  deriving DecidableEq, Repr

/-- The number that the lower 63 bits of a binary64 pattern stand for. -/
def Binary.ofBits (bits : UInt64) : Binary :=
  let fraction : Nat := bits.toNat % Nat.pow 2 52
  let biased : Nat := bits.toNat / Nat.pow 2 52 % Nat.pow 2 11
  if biased = 0 then ⟨fraction, -1074, false⟩
  else ⟨Nat.pow 2 52 + fraction, (biased : Int) - 1075, fraction == 0 && decide (1 < biased)⟩

/-- A number and the interval of the reals that round to it, over one denominator. -/
structure Interval where
  value : Nat
  low : Nat
  high : Nat
  denominator : Nat
  /-- Do the ends round to the number too? -/
  isClosed : Bool
  deriving DecidableEq, Repr

/-- The interval of a number: half the way to each neighbour, ends included when the
significand is even. -/
def Binary.interval (b : Binary) : Interval :=
  let scale := Nat.pow 2 (b.exponent - 2).toNat
  { value := 4 * b.significand * scale
    low := (4 * b.significand - if b.isPower then 1 else 2) * scale
    high := (4 * b.significand + 2) * scale
    denominator := Nat.pow 2 (2 - b.exponent).toNat
    isClosed := b.significand % 2 == 0 }

/-! ## 2. Decimal grids -/

/-- The count of decimal digits of a natural number; zero has one. -/
def digitCount (n : Nat) : Nat :=
  (Nat.toDigits 10 n).length

/-- The power of ten of the leading digit of `num / den`, for `num` and `den` above zero. -/
def leadingPower (num den : Nat) : Int :=
  if den ≤ num then (digitCount (num / den) : Int) - 1
  else
    let j := digitCount den - digitCount num
    if den ≤ num * Nat.pow 10 j then -(j : Int) else -((j : Int) + 1)

/-- `d · 10 ^ k`. -/
structure Digits where
  digits : Nat
  power : Int
  deriving DecidableEq, Repr

namespace Interval

/-- `numerator · 10 ^ -k` over `den`, as a pair without negative powers. -/
def scaleDown (numerator denominator : Nat) (k : Int) : Nat × Nat :=
  (numerator * Nat.pow 10 (-k).toNat, denominator * Nat.pow 10 k.toNat)

/-- Does `d · 10 ^ k` round to the number? -/
def accepts (i : Interval) (k : Int) (d : Nat) : Bool :=
  let (low, den) := scaleDown i.low i.denominator k
  let (high, _) := scaleDown i.high i.denominator k
  if i.isClosed then decide (low ≤ d * den) && decide (d * den ≤ high)
  else decide (low < d * den) && decide (d * den < high)

/-- The nearer of two neighbouring points, when the number is `excess / den` above `below`. -/
def nearer (tie : Tie) (below excess den : Nat) : Nat :=
  if 2 * excess < den then below
  else if den < 2 * excess then below + 1
  else
    match tie with
    | .up => below + 1
    | .even => if below % 2 = 0 then below else below + 1

/-- The better of the two points of the grid `10 ^ k` around the number, if one rounds to
it. -/
def onGrid (tie : Tie) (i : Interval) (k : Int) : Option Nat :=
  let (value, den) := scaleDown i.value i.denominator k
  let below := value / den
  match i.accepts k below, i.accepts k (below + 1) with
  | true, true => some (nearer tie below (value % den) den)
  | true, false => some below
  | false, true => some (below + 1)
  | false, false => none

/-- The first grid with a hit, from `n + 1` digits on. -/
def firstHit (tie : Tie) (i : Interval) (leading : Int) : (fuel n : Nat) → Digits
  | 0, n => ⟨(scaleDown i.value i.denominator (leading - n)).1, leading - n⟩
  | fuel + 1, n =>
    match i.onGrid tie (leading - n) with
    | some d => ⟨d, leading - n⟩
    | none => firstHit tie i leading fuel (n + 1)

end Interval

/-! ## 3. The shortest decimal -/

/-- The digits without trailing zeros; `fuel` bounds the count of zeros. -/
def Digits.normal : (fuel : Nat) → Digits → Digits
  | 0, d => d
  | fuel + 1, d =>
    if d.digits ≠ 0 ∧ d.digits % 10 = 0 then normal fuel ⟨d.digits / 10, d.power + 1⟩ else d

/-- The shortest decimal that reads back as the number with these bits; seventeen digits always
suffice.  The sign bit is not looked at. -/
def shortest (tie : Tie) (bits : UInt64) : Digits :=
  let b := Binary.ofBits bits
  if b.significand = 0 then ⟨0, 0⟩
  else
    let i := b.interval
    (i.firstHit tie (leadingPower i.value i.denominator) 17 0).normal 20

end Carryover.Decimal
