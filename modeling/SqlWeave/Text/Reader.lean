/-!
# Readers

A reader takes something from the front of a text and gives it back with the rest of the text.
-/

namespace SqlWeave.Text

/-- A reader of things at the front of a text. -/
abbrev Reader (α : Type) := List Char → Option (α × List Char)

def expect : (word : List Char) → List Char → Option (List Char)
  | [], cs => some cs
  | w :: ws, c :: cs => if c = w then expect ws cs else none
  | _ :: _, [] => none

def digit? (c : Char) : Option Nat :=
  if c.isDigit then some (c.toNat - '0'.toNat) else none

def hex? (c : Char) : Option Nat :=
  if c.isDigit then some (c.toNat - '0'.toNat)
  else if 'a' ≤ c ∧ c ≤ 'f' then some (c.toNat - 'a'.toNat + 10)
  else if 'A' ≤ c ∧ c ≤ 'F' then some (c.toNat - 'A'.toNat + 10)
  else none

def numberOf (digits : List Char) : Nat :=
  digits.foldl (fun n c => n * 10 + (c.toNat - '0'.toNat)) 0

/-- A number of one digit or more, up to where the digits end. -/
def number? : Reader Nat := fun cs =>
  match cs.takeWhile Char.isDigit with
  | [] => none
  | digits => some (numberOf digits, cs.dropWhile Char.isDigit)

/-- A number of at least `least` digits, which ends after `most` digits or where the digits end. -/
def digits? (least most : Nat) : Reader Nat := fun cs =>
  let digits := (cs.take most).takeWhile Char.isDigit
  if digits.length < least then none else some (numberOf digits, cs.drop digits.length)

/-- What a reader reads when it reads the whole text. -/
def whole {α : Type} (reader : Reader α) (cs : List Char) : Option α :=
  match reader cs with
  | some (a, []) => some a
  | _ => none

theorem hex?_digitChar {n : Nat} (h : n < 16) : hex? (Nat.digitChar n) = some n := by
  have hall : ∀ n < 16, hex? (Nat.digitChar n) = some n := by decide
  exact hall n h

theorem numberOf_toDigits (n : Nat) : numberOf (Nat.toDigits 10 n) = n := by
  have hfold : numberOf (Nat.toDigits 10 n) = Nat.ofDigitChars 10 (Nat.toDigits 10 n) 0 := by
    unfold numberOf Nat.ofDigitChars
    congr
    funext k c
    rw [Nat.mul_comm]
  rw [hfold, Nat.ofDigitChars_ten_toDigits]

-- The digits of a number are read as the number.
theorem whole_number?_toDigits (n : Nat) : whole number? (Nat.toDigits 10 n) = some n := by
  have hdigit : ∀ c ∈ Nat.toDigits 10 n, c.isDigit = true := fun c hc =>
    Nat.isDigit_of_mem_toDigits (by decide) (by decide) hc
  have htake := @List.takeWhile_append_of_pos _ Char.isDigit _ [] hdigit
  have hdrop := @List.dropWhile_append_of_pos _ Char.isDigit _ [] hdigit
  rw [List.append_nil, List.takeWhile_nil, List.append_nil] at htake
  rw [List.append_nil, List.dropWhile_nil] at hdrop
  unfold whole number?
  rw [htake, hdrop]
  cases hdigits : Nat.toDigits 10 n with
  | nil => exact absurd hdigits Nat.toDigits_ne_nil
  | cons c rest =>
    show some (numberOf (c :: rest)) = some n
    rw [← hdigits, numberOf_toDigits]

/-- The natural number of 64 bits that a whole text writes, after a plus sign or without one. -/
def nat64? (cs : List Char) : Option Nat := do
  let n ← whole number? ((expect ['+'] cs).getD cs)
  if n < Nat.pow 2 64 then return n else none

end SqlWeave.Text
