import SqlWeave.Number.Binary

/-!
# Shortest decimal digits

The shortest decimal that reads back as a given 64-bit number.  The reals that round to the number
form an interval around it, whose ends belong to it when the number is even.  Decimal grids of
falling unit are tried until one has a point in the interval; a number has at most two neighbours
on a grid, and of two in the interval the nearer is taken.
-/

namespace SqlWeave.Number

/-- A decimal: `digits * 10 ^ exponent`. -/
structure Decimal where
  digits : Nat
  exponent : Int
  deriving DecidableEq

/-- An interval around a value, over a common denominator. -/
structure Interval where
  low : Nat
  value : Nat
  high : Nat
  den : Nat
  closed : Bool

/-- The reals that round to `mantissa * 2 ^ exponent`.  Below a power of two the numbers lie twice
as close. -/
def roundingInterval (mantissa : Nat) (exponent : Int) : Interval :=
  let below :=
    if mantissa = format64.fractions ∧ exponent > format64.minExponent then 1 else 2
  let (scale, den) := Format.asFraction 1 (exponent - 2)
  ⟨(4 * mantissa - below) * scale, 4 * mantissa * scale, (4 * mantissa + 2) * scale, den,
    mantissa % 2 == 0⟩

namespace Interval

/-- The interval with every number in units of `10 ^ exponent`. -/
def inTens (i : Interval) (exponent : Int) : Interval :=
  if exponent ≥ 0 then { i with den := i.den * Nat.pow 10 exponent.toNat }
  else
    let scale := Nat.pow 10 (-exponent).toNat
    { i with low := i.low * scale, value := i.value * scale, high := i.high * scale }

def holds (i : Interval) (n : Nat) : Bool :=
  if i.closed then i.low ≤ n * i.den && n * i.den ≤ i.high
  else i.low < n * i.den && n * i.den < i.high

/-- The whole number in the interval that is nearest to its value, if there is one among the
value's two neighbours. -/
def nearestWhole? (i : Interval) : Option Nat :=
  let below := i.value / i.den
  let above := below + 1
  match i.holds below, i.holds above with
  | false, false => none
  | true, false => some below
  | false, true => some above
  | true, true => some (Format.roundHalfEven i.value i.den)

/-- The first hit on the grids of unit `10 ^ exponent`, `10 ^ (exponent - 1)`, …, of which `fuel`
are tried. -/
def firstHit (i : Interval) (exponent : Int) : (fuel : Nat) → Decimal
  | 0 => ⟨0, 0⟩
  | fuel + 1 =>
    match (i.inTens exponent).nearestWhole? with
    | some n => ⟨n, exponent⟩
    | none => i.firstHit (exponent - 1) fuel

end Interval

def decimalLength (n : Nat) : Nat := (Nat.toDigits 10 n).length

/-- The shortest decimal that reads back as `mantissa * 2 ^ exponent`, which is not zero.  Twenty
grids are enough, because seventeen digits tell any two numbers of the format apart. -/
def shortest (mantissa : Nat) (exponent : Int) : Decimal :=
  let i := roundingInterval mantissa exponent
  let start : Int := (decimalLength i.value : Int) - decimalLength i.den + 1
  i.firstHit start 24

end SqlWeave.Number
