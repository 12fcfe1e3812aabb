import InterpreterHost.Calendar

/-!
# Instants in time

An instant is a number of seconds since the epoch and nanoseconds after that second.  A leap second is the second
before it with a billion nanoseconds or more.

## Main definitions

* `Timestamp` — an instant
* `Timestamp.date`, `Timestamp.hour`, `Timestamp.minute`, `Timestamp.second` — its fields in UTC
* `Timestamp.rfc3339` — its text, with as many places of the second as needed
* `Timestamp.rfc3339Micros` — its text with six places of the second
-/

namespace InterpreterHost

/-- An instant in time. -/
structure Timestamp where
  /-- Whole seconds since the epoch. -/
  seconds : Int
  /-- Nanoseconds after that second; a billion and more in a leap second. -/
  nanos : Nat
deriving DecidableEq, Repr, Inhabited

namespace Timestamp

/-! ## Fields -/

def date (t : Timestamp) : Date := Date.ofDays (t.seconds / 86400)

/-- The second of the day. -/
def secondOfDay (t : Timestamp) : Nat := (t.seconds % 86400).toNat

def hour (t : Timestamp) : Nat := t.secondOfDay / 3600
def minute (t : Timestamp) : Nat := t.secondOfDay / 60 % 60
def second (t : Timestamp) : Nat := t.secondOfDay % 60

/-- The whole microseconds of the second; those of a leap second are the last of the second before it. -/
def micros (t : Timestamp) : Nat := min (t.nanos / 1000) 999999

/-- The instant of a UTC date and time of day, with microseconds. -/
def ofFields (date : Date) (hour minute second micros : Nat) : Timestamp :=
  ⟨date.toDays * 86400 + (hour * 3600 + minute * 60 + second : Nat), micros * 1000⟩

/-- The microseconds from the epoch to the instant. -/
def toMicros (t : Timestamp) : Int := t.seconds * 1000000 + t.micros

/-- The instant that many microseconds from the epoch. -/
def ofMicros (m : Int) : Timestamp := ⟨m / 1000000, (m % 1000000).toNat * 1000⟩

/-- The instant cut to whole microseconds, outside of leap seconds. -/
def truncate (t : Timestamp) : Timestamp := ⟨t.seconds, t.micros * 1000⟩

@[simp] theorem micros_truncate (t : Timestamp) : t.truncate.micros = t.micros := by
  simp only [truncate, micros]; omega

/-- Cutting twice is cutting once. -/
theorem truncate_truncate (t : Timestamp) : t.truncate.truncate = t.truncate := by
  simp only [truncate, micros, Timestamp.mk.injEq, true_and]; omega

/-- Before, or at the same second and no later within it. -/
def le (s t : Timestamp) : Prop := s.seconds < t.seconds ∨ s.seconds = t.seconds ∧ s.nanos ≤ t.nanos

/-- Cutting keeps the order of instants. -/
theorem le.truncate {s t : Timestamp} (h : s.le t) : s.truncate.le t.truncate := by
  simp only [le, Timestamp.truncate, micros] at *; omega

/-! ## Text -/

/-- A natural number in at least `width` digits. -/
def padded (width n : Nat) : String :=
  let digits := toString n
  String.ofList (List.replicate (width - digits.length) '0') ++ digits

/-- A year in four digits; before the year 0 and after the year 9999 its sign comes first. -/
def yearText (year : Int) : String :=
  if 0 ≤ year ∧ year ≤ 9999 then padded 4 year.toNat
  else (if year < 0 then "-" else "+") ++ padded 4 year.natAbs

/-- The date and the time of day to the second; a leap second counts on to sixty. -/
def rfc3339Seconds (t : Timestamp) : String :=
  let d := t.date
  let second := t.second + if 1000000000 ≤ t.nanos then 1 else 0
  s!"{yearText d.year}-{padded 2 d.month}-{padded 2 d.day}T{padded 2 t.hour}:{padded 2 t.minute}:{padded 2 second}"

/-- The nanoseconds after the second that the text shows. -/
def subsecond (t : Timestamp) : Nat := if 1000000000 ≤ t.nanos then t.nanos - 1000000000 else t.nanos

/-- The text in UTC with no, three, six or nine places of the second, whichever are needed. -/
def rfc3339 (t : Timestamp) : String :=
  let n := t.subsecond
  let places :=
    if n = 0 then ""
    else if n % 1000000 = 0 then "." ++ padded 3 (n / 1000000)
    else if n % 1000 = 0 then "." ++ padded 6 (n / 1000)
    else "." ++ padded 9 n
  t.rfc3339Seconds ++ places ++ "+00:00"

/-- The text in UTC with six places of the second. -/
def rfc3339Micros (t : Timestamp) : String :=
  t.rfc3339Seconds ++ "." ++ padded 6 (t.subsecond / 1000) ++ "Z"

end Timestamp

end InterpreterHost
