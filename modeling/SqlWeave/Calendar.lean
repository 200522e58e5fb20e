/-!
# The calendar

Dates of the Gregorian calendar, which is extended to the years before its introduction (the year 0
comes before the year 1), and times of day.  Days are counted from the first of January 2000.
-/

namespace SqlWeave

structure Date where
  year : Int
  month : Nat
  day : Nat
  deriving DecidableEq

namespace Date

def firstYear : Int := -262143

def lastYear : Int := 262142

def isLeap (year : Int) : Bool := year % 4 == 0 && (year % 100 != 0 || year % 400 == 0)

def monthLength (year : Int) (month : Nat) : Nat :=
  match month with
  | 2 => if isLeap year then 29 else 28
  | 4 | 6 | 9 | 11 => 30
  | _ => 31

/-- The date with the given parts, if there is such a date. -/
def ofParts? (year : Int) (month day : Nat) : Option Date :=
  if firstYear ≤ year ∧ year ≤ lastYear ∧ 1 ≤ month ∧ month ≤ 12 ∧ 1 ≤ day ∧
      day ≤ monthLength year month then
    some ⟨year, month, day⟩
  else none

/-- How many days lie before a year, up to a constant. -/
def daysBeforeYear (year : Int) : Int :=
  365 * year + (year - 1) / 4 - (year - 1) / 100 + (year - 1) / 400

def daysBeforeMonth (year : Int) (month : Nat) : Nat :=
  (List.range (month - 1)).foldl (fun days m => days + monthLength year (m + 1)) 0

/-- How many days lie between the first of January 2000 and a date. -/
def dayNumber (d : Date) : Int :=
  daysBeforeYear d.year - daysBeforeYear 2000 + daysBeforeMonth d.year d.month + d.day - 1

/-- The last year that starts no later than a day, given how many days lie before it.  The mean
length of a year leads to it or to one of its neighbours. -/
def yearAt (days : Int) : Int :=
  let guess := days * 400 / 146097
  if daysBeforeYear (guess + 1) ≤ days then guess + 1
  else if daysBeforeYear guess ≤ days then guess
  else guess - 1

/-- The month and the day that lie a number of days after the start of a month, at most `months`
months later. -/
def monthAt (year : Int) : (months : Nat) → (month : Nat) → (days : Nat) → Nat × Nat
  | 0, month, days => (month, days + 1)
  | months + 1, month, days =>
    if days < monthLength year month then (month, days + 1)
    else monthAt year months (month + 1) (days - monthLength year month)

/-- The date that lies a number of days after the first of January 2000, if there is such a date. -/
def ofDayNumber? (number : Int) : Option Date :=
  let days := number + daysBeforeYear 2000
  let year := yearAt days
  let (month, day) := monthAt year 11 1 (days - daysBeforeYear year).toNat
  ofParts? year month day

end Date

/-- A time of day.  A leap second is the second before it with more than a billion nanoseconds. -/
structure TimeOfDay where
  seconds : Nat
  nanoseconds : Nat
  deriving DecidableEq

namespace TimeOfDay

def nanosecondsPerSecond : Nat := 1000000000

/-- The time with the given parts, if there is such a time. -/
def ofParts? (hour minute second nanoseconds : Nat) : Option TimeOfDay :=
  if hour < 24 ∧ minute < 60 ∧ second ≤ 60 then
    if second = 60 then
      some ⟨hour * 3600 + minute * 60 + 59, nanosecondsPerSecond + nanoseconds⟩
    else some ⟨hour * 3600 + minute * 60 + second, nanoseconds⟩
  else none

end TimeOfDay

def microsecondsPerDay : Int := 86400000000

def nanoseconds (d : Date) (t : TimeOfDay) : Int :=
  (d.dayNumber * 86400 + t.seconds) * TimeOfDay.nanosecondsPerSecond + t.nanoseconds

/-- Nanoseconds as whole microseconds.  What is left over is dropped. -/
def wholeMicroseconds (nanoseconds : Int) : Int := nanoseconds.tdiv 1000

end SqlWeave
