/-!
# The calendar

The proleptic Gregorian calendar: dates and the number of days from 1 January 1970 to them.

## Main definitions

* `Date` — year, month and day
* `Date.toDays` — the days from the epoch to a date
* `Date.ofDays` — the date that many days from the epoch

## Design notes

A year is found from a day by an estimate from the mean length of a year, which is off by one year at most; the
month is then found by walking through the lengths of the months.
-/

namespace InterpreterHost

/-- A date of the proleptic Gregorian calendar. -/
structure Date where
  year : Int
  month : Nat
  day : Nat
deriving DecidableEq, Repr, Inhabited

namespace Calendar

def isLeapYear (year : Int) : Bool := year % 4 == 0 && (year % 100 != 0 || year % 400 == 0)

/-- The lengths of the months of a year. -/
def monthLengths (year : Int) : List Nat :=
  [31, if isLeapYear year then 29 else 28, 31, 30, 31, 30, 31, 31, 30, 31, 30, 31]

/-- The days between 1 January of the year 1 and 1 January of the given year. -/
def daysBeforeYear (year : Int) : Int :=
  let y := year - 1
  365 * y + y / 4 - y / 100 + y / 400

/-- The days between 1 January of the year 1 and the epoch. -/
def epochDays : Int := 719162

/-- The days of months of the given lengths. -/
def daysOf : List Nat → Nat
  | [] => 0
  | length :: lengths => length + daysOf lengths

/-- The year that a day, counted from 1 January of the year 1, falls in. -/
def yearOfDay (day : Int) : Int :=
  let estimate := day * 400 / 146097 + 1
  if day < daysBeforeYear estimate then estimate - 1
  else if daysBeforeYear (estimate + 1) ≤ day then estimate + 1
  else estimate

/-- Walk through the months from number `month` on to the one that the day of the year falls in. -/
def monthOfDay : List Nat → Nat → Nat → Nat × Nat
  | [], month, day => (month, day)
  | length :: lengths, month, day =>
    if day < length then (month, day) else monthOfDay lengths (month + 1) (day - length)

end Calendar

namespace Date

open Calendar

/-- The days from the epoch to a date; negative before it. -/
def toDays (d : Date) : Int :=
  daysBeforeYear d.year - epochDays + daysOf ((monthLengths d.year).take (d.month - 1)) + (d.day - 1 : Nat)

/-- The date a number of days from the epoch. -/
def ofDays (days : Int) : Date :=
  let day := days + epochDays
  let year := yearOfDay day
  let (month, dayOfMonth) := monthOfDay (monthLengths year) 1 (day - daysBeforeYear year).toNat
  ⟨year, month, dayOfMonth + 1⟩

/-- The number of days in a month of a year. -/
def monthLength (year : Int) (month : Nat) : Nat := (monthLengths year).getD (month - 1) 0

/-- Whether the month and the day exist. -/
def isValid (d : Date) : Bool :=
  1 ≤ d.month && d.month ≤ 12 && 1 ≤ d.day && d.day ≤ monthLength d.year d.month

end Date

end InterpreterHost
