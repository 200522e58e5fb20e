/-!
# Binary floating-point numbers

The interchange formats of 32 and 64 bits.  A word of a format is a sign, a biased exponent and a
fraction; `Format.decode` reads it as an exact number, and `Format.nearest` finds the word of the
format that lies nearest to a given fraction, an exact half going to the even word.  Arithmetic is
exact arithmetic on natural numbers followed by one such rounding.
-/

namespace SqlWeave.Number

/-- A binary interchange format: `precision` significant bits (the hidden one included), and the
exponent of two of its smallest positive number. -/
structure Format where
  precision : Nat
  minExponent : Int
  exponentBits : Nat

def format64 : Format := ⟨53, -1074, 11⟩

def format32 : Format := ⟨24, -149, 8⟩

/-- What a word of a format stands for.  A finite number is `± mantissa * 2 ^ exponent`; a NaN
keeps the bits of its fraction. -/
inductive Datum where
  | finite (negative : Bool) (mantissa : Nat) (exponent : Int)
  | infinite (negative : Bool)
  | nan (negative : Bool) (payload : Nat)
  deriving DecidableEq

namespace Format

/-- How many fractions there are: the fraction field holds all significant bits but the first. -/
def fractions (f : Format) : Nat := Nat.pow 2 (f.precision - 1)

/-- The exponent field of infinities and NaNs. -/
def topExponent (f : Format) : Nat := Nat.pow 2 f.exponentBits - 1

/-- The word of positive infinity. -/
def infinity (f : Format) : Nat := f.topExponent * f.fractions

/-- The weight of the sign bit. -/
def signWeight (f : Format) : Nat := (f.topExponent + 1) * f.fractions

/-- Put a sign before a word without one. -/
def withSign (f : Format) (negative : Bool) (word : Nat) : Nat :=
  if negative then f.signWeight + word else word

/-- Read a word. -/
def decode (f : Format) (word : Nat) : Datum :=
  let negative := word / f.signWeight % 2 == 1
  let magnitude := word % f.signWeight
  let biased := magnitude / f.fractions
  let fraction := magnitude % f.fractions
  if biased = f.topExponent then
    if fraction = 0 then .infinite negative else .nan negative fraction
  else if biased = 0 then .finite negative fraction f.minExponent
  else .finite negative (fraction + f.fractions) (f.minExponent + biased - 1)

/-- The fraction `num / den` rounded to a natural number, a half going to the even neighbour. -/
def roundHalfEven (num den : Nat) : Nat :=
  let q := num / den
  let r := num % den
  if 2 * r < den then q
  else if 2 * r > den then q + 1
  else if q % 2 = 0 then q else q + 1

/-- The fraction `num / den` in units of `2 ^ e`. -/
def inUnits (num den : Nat) (e : Int) : Nat × Nat :=
  if e ≥ 0 then (num, den * Nat.pow 2 e.toNat) else (num * Nat.pow 2 (-e).toNat, den)

/-- The word, without its sign, nearest to `num / den`, where `0 < den`. -/
def nearestMagnitude (f : Format) (num den : Nat) : Nat :=
  if num = 0 then 0
  else
    let guess : Int := (num.log2 : Int) - den.log2 - (f.precision - 1)
    let narrow := inUnits num den guess
    let exponent :=
      max f.minExponent (if narrow.1 / narrow.2 < f.fractions then guess - 1 else guess)
    let scaled := inUnits num den exponent
    let word := (exponent - f.minExponent).toNat * f.fractions + roundHalfEven scaled.1 scaled.2
    min word f.infinity

/-- The word nearest to `± num / den`. -/
def nearest (f : Format) (negative : Bool) (num den : Nat) : Nat :=
  f.withSign negative (f.nearestMagnitude num den)

/-- The number `mantissa * 2 ^ exponent` as a fraction. -/
def asFraction (mantissa : Nat) (exponent : Int) : Nat × Nat :=
  if exponent ≥ 0 then (mantissa * Nat.pow 2 exponent.toNat, 1)
  else (mantissa, Nat.pow 2 (-exponent).toNat)

/-- Write a datum read from another format: the nearest number, an infinity, or a quiet NaN with
the leading bits of the payload. -/
def ofDatum (f source : Format) : Datum → Nat
  | .finite negative mantissa exponent =>
    let (num, den) := asFraction mantissa exponent
    f.nearest negative num den
  | .infinite negative => f.withSign negative f.infinity
  | .nan negative payload =>
    let quiet := f.fractions / 2
    let moved := payload * f.fractions / source.fractions
    f.withSign negative (f.infinity + (if moved / quiet = 0 then moved + quiet else moved))

end Format

structure Binary64 where
  bits : UInt64
  deriving DecidableEq

structure Binary32 where
  bits : UInt32
  deriving DecidableEq

namespace Binary64

/-- The number a word stands for. -/
def datum (x : Binary64) : Datum := format64.decode x.bits.toNat

def ofWord (word : Nat) : Binary64 := ⟨UInt64.ofNat word⟩

def ofInt (i : Int) : Binary64 := ofWord (format64.nearest (i < 0) i.natAbs 1)

/-- A number of the 32-bit format, which the 64-bit format represents exactly. -/
def ofBinary32 (x : Binary32) : Binary64 :=
  ofWord (format64.ofDatum format32 (format32.decode x.bits.toNat))

/-- Neither an infinity nor a NaN. -/
def isFinite (x : Binary64) : Bool :=
  match x.datum with
  | .finite .. => true
  | _ => false

/-- Equality of numbers: the zeros are equal, and a NaN equals nothing. -/
def same (x y : Binary64) : Bool :=
  match x.datum, y.datum with
  | .nan .., _ => false
  | _, .nan .. => false
  | .finite _ 0 _, .finite _ 0 _ => true
  | a, b => a == b

def neg (x : Binary64) : Binary64 :=
  ofWord ((x.bits.toNat + format64.signWeight) % (2 * format64.signWeight))

/-- The product of two finite numbers, rounded. -/
def mul (x y : Binary64) : Binary64 :=
  match x.datum, y.datum with
  | .finite s m e, .finite t n d =>
    let (num, den) := Format.asFraction (m * n) (e + d)
    ofWord (format64.nearest (s != t) num den)
  | .infinite s, .finite t _ _ => ofWord (format64.withSign (s != t) format64.infinity)
  | _, _ => y

/-- The quotient of two finite numbers, the second of which is not zero, rounded. -/
def div (x y : Binary64) : Binary64 :=
  match x.datum, y.datum with
  | .finite s m e, .finite t n d =>
    let (num, den) := Format.asFraction 1 (e - d)
    ofWord (format64.nearest (s != t) (m * num) (n * den))
  | _, _ => x

end Binary64

namespace Binary32

def ofWord (word : Nat) : Binary32 := ⟨UInt32.ofNat word⟩

def ofInt (i : Int) : Binary32 := ofWord (format32.nearest (i < 0) i.natAbs 1)

/-- The nearest number to one of the 64-bit format. -/
def ofBinary64 (x : Binary64) : Binary32 := ofWord (format32.ofDatum format64 x.datum)

end Binary32

end SqlWeave.Number
