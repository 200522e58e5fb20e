import SqlWeave.Json
import SqlWeave.Text.Reader

/-!
# Reading JSON text

Containers may be nested `depthLimit` deep.

A number without a point and an exponent is exact while it fits in 64 bits.  Any other number is
read in floating point: the significand is cut to what fits in 64 bits, converted, and multiplied
or divided by a power of ten, with a rounding at each of these steps.
-/

namespace SqlWeave.Json

open Text (Reader expect digit? hex?)

/-- How deep arrays and objects may be nested. -/
def depthLimit : Nat := 127

/-- The blanks between the tokens of JSON. -/
def isSpace (c : Char) : Bool :=
  c == ' ' || c == '\n' || c == '\t' || c == '\r'

/-- Leave out blanks. -/
def skipSpace (cs : List Char) : List Char := cs.dropWhile isSpace

/-- Four hexadecimal digits. -/
def unit? : Reader Nat
  | a :: b :: c :: d :: rest => do
    let a ← hex? a
    let b ← hex? b
    let c ← hex? c
    let d ← hex? d
    return (((a * 16 + b) * 16 + c) * 16 + d, rest)
  | _ => none

def isLeading (u : Nat) : Bool := 0xd800 ≤ u && u ≤ 0xdbff

def isTrailing (u : Nat) : Bool := 0xdc00 ≤ u && u ≤ 0xdfff

/-- The character of a numeric escape, after its `u`.  A leading surrogate has to be followed by
the escape of a trailing one, and a trailing one may not stand alone. -/
def numericEscape? : Reader Char := fun cs => do
  let (u, rest) ← unit? cs
  if isTrailing u then none
  else if isLeading u then
    let (v, rest) ← unit? (← expect ['\\', 'u'] rest)
    if isTrailing v then
      return (Char.ofNat (0x10000 + (u - 0xd800) * 0x400 + (v - 0xdc00)), rest)
    else none
  else return (Char.ofNat u, rest)

/-- The character of an escape, after its backslash. -/
def escape? : Reader Char
  | '"' :: rest => some ('"', rest)
  | '\\' :: rest => some ('\\', rest)
  | '/' :: rest => some ('/', rest)
  | 'b' :: rest => some ('\x08', rest)
  | 'f' :: rest => some ('\x0c', rest)
  | 'n' :: rest => some ('\n', rest)
  | 'r' :: rest => some ('\r', rest)
  | 't' :: rest => some ('\t', rest)
  | 'u' :: rest => numericEscape? rest
  | _ => none

/-- The characters of a string up to its closing quote, of which at most `fuel` are read. -/
def stringBody? : (fuel : Nat) → Reader (List Char)
  | 0, _ => none
  | fuel + 1, cs =>
    match cs with
    | [] => none
    | '"' :: rest => some ([], rest)
    | '\\' :: rest => do
      let (c, rest) ← escape? rest
      let (body, rest) ← stringBody? fuel rest
      return (c :: body, rest)
    | c :: rest =>
      if c.toNat < 0x20 then none
      else do
        let (body, rest) ← stringBody? fuel rest
        return (c :: body, rest)

/-- A string, after its opening quote. -/
def string? : Reader String := fun cs => do
  let (body, rest) ← stringBody? (cs.length + 1) cs
  return (String.ofList body, rest)

/-- The greatest significand. -/
def maxSignificand : Nat := Nat.pow 2 64 - 1

/-- Append digits to a significand while it fits in 64 bits.  Gives the significand, how many
digits it took, and the rest of the text. -/
def absorb (significand taken : Nat) : List Char → Nat × Nat × List Char
  | [] => (significand, taken, [])
  | c :: cs =>
    match digit? c with
    | some d =>
      if significand * 10 + d ≤ maxSignificand then absorb (significand * 10 + d) (taken + 1) cs
      else (significand, taken, c :: cs)
    | none => (significand, taken, c :: cs)

/-- Leave out digits, counting them. -/
def skipDigits (cs : List Char) : Nat × List Char :=
  ((cs.takeWhile Char.isDigit).length, cs.dropWhile Char.isDigit)

/-- The powers of ten with this exponent at most are floating-point numbers. -/
def maxPower : Nat := 308

/-- A power of ten in floating point. -/
def powerOfTen (n : Nat) : Number.Binary64 :=
  .ofWord (Number.format64.nearest false (Nat.pow 10 n) 1)

/-- Multiply by a power of ten, which fails where the product is too large.  A power too small to
divide by takes several divisions; a 64-bit significand vanishes before the third. -/
def scaled (x : Number.Binary64) (exponent : Int) : (steps : Nat) → Option Number.Binary64
  | 0 => some x
  | steps + 1 =>
    if exponent.natAbs ≤ maxPower then
      if exponent < 0 then some (x.div (powerOfTen exponent.natAbs))
      else
        let product := x.mul (powerOfTen exponent.natAbs)
        if product.isFinite then some product else none
    else if x.bits = 0 then some x
    else if exponent > 0 then none
    else scaled (x.div (powerOfTen maxPower)) (exponent + maxPower) steps

/-- The floating-point number `± significand * 10 ^ exponent`. -/
def floatOfParts (negative : Bool) (significand : Nat) (exponent : Int) : Option Json := do
  let x ← scaled (.ofInt significand) exponent 4
  return .float (if negative then x.neg else x)

/-- The exponent of a number, after its letter. -/
def exponent? : Reader Int := fun cs =>
  let (sign, rest) : Int × List Char :=
    match cs with
    | '+' :: rest => (1, rest)
    | '-' :: rest => (-1, rest)
    | rest => (1, rest)
  (Text.number? rest).map fun (n, rest) => (sign * n, rest)

/-- A number whose significand has been read, up to its exponent if it has one. -/
def withExponent (negative : Bool) (significand : Nat) (exponent : Int) : Reader Json
  | 'e' :: rest | 'E' :: rest => do
    let (e, rest) ← exponent? rest
    return (← floatOfParts negative significand (exponent + e), rest)
  | rest => do return (← floatOfParts negative significand exponent, rest)

/-- A number whose whole part has been read and whose point comes next.  At least one digit
follows the point. -/
def fraction? (negative : Bool) (significand : Nat) (exponent : Int) : Reader Json := fun cs =>
  let (significand, taken, rest) := absorb significand 0 cs
  let (dropped, rest) := skipDigits rest
  if taken + dropped = 0 then none
  else withExponent negative significand (exponent - taken) rest

/-- A number after its sign. -/
def unsigned? (negative : Bool) : Reader Json := fun cs =>
  match cs.takeWhile Char.isDigit with
  | [] => none
  | '0' :: _ :: _ => none
  | _ =>
    let (significand, _, rest) := absorb 0 0 cs
    let (dropped, rest) := skipDigits rest
    match rest with
    | '.' :: rest => fraction? negative significand dropped rest
    | 'e' :: _ | 'E' :: _ => withExponent negative significand dropped rest
    | _ =>
      if dropped > 0 then withExponent negative significand dropped rest
      else if negative then
        if significand = 0 ∨ significand > Nat.pow 2 63 then withExponent true significand 0 rest
        else some (.int (-significand), rest)
      else some (.int significand, rest)

def number? : Reader Json
  | '-' :: rest => unsigned? true rest
  | rest => unsigned? false rest

/-- The items of an array after the first, up to its closing bracket; there are at most `fuel`. -/
def moreItems? (value : Reader Json) : (fuel : Nat) → Reader (List Json)
  | 0, _ => none
  | fuel + 1, cs =>
    match skipSpace cs with
    | ']' :: rest => some ([], rest)
    | ',' :: rest => do
      let (item, rest) ← value (skipSpace rest)
      let (items, rest) ← moreItems? value fuel rest
      return (item :: items, rest)
    | _ => none

/-- The items of an array, after its opening bracket. -/
def items? (value : Reader Json) : Reader (List Json) := fun cs =>
  match skipSpace cs with
  | ']' :: rest => some ([], rest)
  | rest => do
    let (item, rest) ← value rest
    let (items, rest) ← moreItems? value (rest.length + 1) rest
    return (item :: items, rest)

def field? (value : Reader Json) : Reader (String × Json) := fun cs => do
  let (name, rest) ← string? (← expect ['"'] cs)
  let rest ← expect [':'] (skipSpace rest)
  let (v, rest) ← value (skipSpace rest)
  return ((name, v), rest)

/-- The fields of an object after the first, up to its closing brace; there are at most `fuel`. -/
def moreFields? (value : Reader Json) : (fuel : Nat) → Reader (List (String × Json))
  | 0, _ => none
  | fuel + 1, cs =>
    match skipSpace cs with
    | '}' :: rest => some ([], rest)
    | ',' :: rest => do
      let (field, rest) ← field? value (skipSpace rest)
      let (fields, rest) ← moreFields? value fuel rest
      return (field :: fields, rest)
    | _ => none

/-- The fields of an object, after its opening brace. -/
def fields? (value : Reader Json) : Reader (List (String × Json)) := fun cs =>
  match skipSpace cs with
  | '}' :: rest => some ([], rest)
  | rest => do
    let (field, rest) ← field? value rest
    let (fields, rest) ← moreFields? value (rest.length + 1) rest
    return (field :: fields, rest)

/-- A value, in which `depth` containers may be nested. -/
def value? : (depth : Nat) → Reader Json
  | depth, cs =>
    match cs with
    | 'n' :: rest => (expect ['u', 'l', 'l'] rest).map fun rest => (.null, rest)
    | 't' :: rest => (expect ['r', 'u', 'e'] rest).map fun rest => (.bool true, rest)
    | 'f' :: rest => (expect ['a', 'l', 's', 'e'] rest).map fun rest => (.bool false, rest)
    | '"' :: rest => (string? rest).map fun (s, rest) => (.string s, rest)
    | '[' :: rest =>
      match depth with
      | 0 => none
      | depth + 1 => (items? (value? depth) rest).map fun (items, rest) => (.array items, rest)
    | '{' :: rest =>
      match depth with
      | 0 => none
      | depth + 1 => (fields? (value? depth) rest).map fun (fields, rest) => (ofFields fields, rest)
    | _ => number? cs

/-- The value that a whole text writes, if it writes one. -/
def parse? (s : String) : Option Json := do
  let (v, rest) ← value? depthLimit (skipSpace s.toList)
  if skipSpace rest = [] then return v else none

end SqlWeave.Json
