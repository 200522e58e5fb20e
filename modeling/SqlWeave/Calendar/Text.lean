import SqlWeave.Calendar
import SqlWeave.Text.Blank
import SqlWeave.Text.Reader

/-!
# Dates and moments in text

Written as `year-month-day` and `year-month-dayThour:minute:second`.  A local date or moment may
have blanks between its parts, and years of any length after a sign; a moment with an offset from
universal time keeps to fixed widths.
-/

namespace SqlWeave.Calendar

open Text (Reader expect digits? number? trimStart)

def part? : Reader Nat := fun cs => digits? 1 2 (trimStart cs)

/-- The rest after blanks and a mark. -/
def mark? (c : Char) (cs : List Char) : Option (List Char) := expect [c] (trimStart cs)

/-- A year, which has four digits at most if it has no sign. -/
def year? : Reader Int := fun cs =>
  match trimStart cs with
  | '-' :: rest => (number? rest).map fun (n, rest) => (-n, rest)
  | '+' :: rest => (number? rest).map fun (n, rest) => (n, rest)
  | rest => (digits? 1 4 rest).map fun (n, rest) => (n, rest)

def readDate? : Reader Date := fun cs => do
  let (year, rest) ← year? cs
  let (month, rest) ← part? (← mark? '-' rest)
  let (day, rest) ← part? (← mark? '-' rest)
  return (← Date.ofParts? year month day, rest)

/-- The nanoseconds after the point of a second, if it has one.  Digits after the ninth are
dropped. -/
def fraction? : Reader Nat
  | '.' :: rest => do
    let (n, after) ← digits? 1 9 rest
    return (n * Nat.pow 10 (9 - (rest.length - after.length)), after.dropWhile Char.isDigit)
  | rest => some (0, rest)

def readTime? : Reader TimeOfDay := fun cs => do
  let (hour, rest) ← part? cs
  let (minute, rest) ← part? (← mark? ':' rest)
  let (second, rest) ← part? (← mark? ':' rest)
  let (fraction, rest) ← fraction? rest
  return (← TimeOfDay.ofParts? hour minute second fraction, rest)

def date? (s : String) : Option Date := do
  let (d, rest) ← readDate? s.toList
  if trimStart rest = [] then return d else none

/-- The moment that a text writes, in microseconds. -/
def moment? (s : String) : Option Int := do
  let (d, rest) ← readDate? s.toList
  let (t, rest) ← readTime? (← mark? 'T' rest)
  if trimStart rest = [] then return wholeMicroseconds (nanoseconds d t) else none

/-- The mark between a date and a time, where there may be a letter of either case or a blank. -/
def separator? : List Char → Option (List Char)
  | 'T' :: rest | 't' :: rest | ' ' :: rest => some rest
  | _ => none

/-- An offset from universal time in minutes. -/
def offset? : Reader Int := fun cs =>
  match cs with
  | 'Z' :: rest | 'z' :: rest => some (0, rest)
  | '+' :: rest => minutes 1 rest
  | '-' :: rest | '−' :: rest => minutes (-1) rest
  | _ => none
where
  /-- The hours and minutes of an offset. -/
  minutes (sign : Int) (cs : List Char) : Option (Int × List Char) := do
    let (hour, rest) ← digits? 2 2 cs
    let (minute, rest) ← digits? 2 2 (← expect [':'] rest)
    if hour < 24 ∧ minute < 60 then return (sign * (hour * 60 + minute : Nat), rest) else none

/-- The moment in universal time that a text with an offset writes, in microseconds. -/
def universalMoment? (s : String) : Option Int := do
  let (year, rest) ← digits? 4 4 s.toList
  let (month, rest) ← digits? 2 2 (← expect ['-'] rest)
  let (day, rest) ← digits? 2 2 (← expect ['-'] rest)
  let (hour, rest) ← digits? 2 2 (← separator? rest)
  let (minute, rest) ← digits? 2 2 (← expect [':'] rest)
  let (second, rest) ← digits? 2 2 (← expect [':'] rest)
  let (fraction, rest) ← fraction? rest
  let (offset, rest) ← offset? rest
  let d ← Date.ofParts? year month day
  let t ← TimeOfDay.ofParts? hour minute second fraction
  if rest.isEmpty then return wholeMicroseconds (nanoseconds d t - offset * 60000000000) else none

/-- A number with leading zeros up to a width. -/
def padded (width n : Nat) : String :=
  let digits := Nat.toDigits 10 n
  String.ofList (List.replicate (width - digits.length) '0' ++ digits)

/-- The text of a year: a sign comes before all but the years of one to four digits. -/
def yearText (year : Int) : String :=
  if 0 ≤ year ∧ year ≤ 9999 then padded 4 year.natAbs
  else (if year < 0 then "-" else "+") ++ padded 4 year.natAbs

def dateText (d : Date) : String :=
  yearText d.year ++ "-" ++ padded 2 d.month ++ "-" ++ padded 2 d.day

/-- The text of a fraction of a second: nothing, three digits or six. -/
def fractionText (microseconds : Nat) : String :=
  if microseconds = 0 then ""
  else if microseconds % 1000 = 0 then "." ++ padded 3 (microseconds / 1000)
  else "." ++ padded 6 microseconds

def timeText (microseconds : Nat) : String :=
  let seconds := microseconds / 1000000
  padded 2 (seconds / 3600) ++ ":" ++ padded 2 (seconds / 60 % 60) ++ ":" ++
    padded 2 (seconds % 60) ++ fractionText (microseconds % 1000000)

/-- The text of a moment, if it falls on a date. -/
def momentText? (microseconds : Int) : Option String := do
  let d ← Date.ofDayNumber? (microseconds / microsecondsPerDay)
  return dateText d ++ "T" ++ timeText (microseconds % microsecondsPerDay).toNat

end SqlWeave.Calendar
