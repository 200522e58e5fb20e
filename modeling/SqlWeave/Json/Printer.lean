import SqlWeave.Json
import SqlWeave.Number.Shortest

/-!
# Compact JSON text

The text of a JSON value without blanks.  A string escapes quotes, backslashes and control
characters only.  A floating-point number is written with the fewest digits that read back as it:
plainly, with a point, when the point falls after the last five zeros before the digits or among
the first sixteen places, else with an exponent that carries its sign.
-/

namespace SqlWeave.Json

/-- A hexadecimal digit. -/
def hexDigit (n : Nat) : Char := Nat.digitChar n

/-- The form of a character inside a string. -/
def escaped (c : Char) : List Char :=
  match c with
  | '"' => ['\\', '"']
  | '\\' => ['\\', '\\']
  | '\x08' => ['\\', 'b']
  | '\x0c' => ['\\', 'f']
  | '\n' => ['\\', 'n']
  | '\r' => ['\\', 'r']
  | '\t' => ['\\', 't']
  | c =>
    if c.toNat < 0x20 then ['\\', 'u', '0', '0', hexDigit (c.toNat / 16), hexDigit (c.toNat % 16)]
    else [c]

/-- A string in quotes. -/
def quoted (s : String) : List Char :=
  '"' :: s.toList.flatMap escaped ++ ['"']

/-- Between these places, counted from the first digit, a decimal point is written plainly. -/
def firstPlainPoint : Int := -4

/-- See `firstPlainPoint`. -/
def lastPlainPoint : Int := 16

def decimalText (d : Number.Decimal) : List Char :=
  let digits := Nat.toDigits 10 d.digits
  let point := d.exponent + digits.length
  if point < firstPlainPoint ∨ lastPlainPoint < point then
    let exponent := point - 1
    digits.take 1 ++ (if digits.length = 1 then [] else '.' :: digits.drop 1) ++
      'e' :: (if exponent < 0 then '-' else '+') :: Nat.toDigits 10 exponent.natAbs
  else if point ≤ 0 then '0' :: '.' :: List.replicate (-point).toNat '0' ++ digits
  else if d.exponent ≥ 0 then digits ++ List.replicate d.exponent.toNat '0' ++ ['.', '0']
  else digits.take point.toNat ++ '.' :: digits.drop point.toNat

/-- The text of a floating-point number; what is not finite is written as null. -/
def floatText (x : Number.Binary64) : List Char :=
  match x.datum with
  | .finite negative mantissa exponent =>
    (if negative then ['-'] else []) ++
      if mantissa = 0 then ['0', '.', '0'] else decimalText (Number.shortest mantissa exponent)
  | _ => ['n', 'u', 'l', 'l']

/-- The decimal text of an integer. -/
def intText (i : Int) : List Char :=
  (if i < 0 then ['-'] else []) ++ Nat.toDigits 10 i.natAbs

/-- Join texts with commas. -/
def commaSeparated : List (List Char) → List Char
  | [] => []
  | [text] => text
  | text :: rest => text ++ ',' :: commaSeparated rest

mutual

def chars : Json → List Char
  | .null => ['n', 'u', 'l', 'l']
  | .bool true => ['t', 'r', 'u', 'e']
  | .bool false => ['f', 'a', 'l', 's', 'e']
  | .int i => intText i
  | .float x => floatText x
  | .string s => quoted s
  | .array items => '[' :: commaSeparated (itemChars items) ++ [']']
  | .object fields => '{' :: commaSeparated (fieldChars fields) ++ ['}']

def itemChars : List Json → List (List Char)
  | [] => []
  | item :: rest => chars item :: itemChars rest

def fieldChars : List (String × Json) → List (List Char)
  | [] => []
  | (name, value) :: rest => (quoted name ++ ':' :: chars value) :: fieldChars rest

end

/-- The compact text of a value. -/
def text (j : Json) : String := String.ofList j.chars

end SqlWeave.Json
