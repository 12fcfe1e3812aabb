import InterpreterHost.Calendar
import InterpreterHost.Interpreter.Raised

/-!
# Dates and times of the interpreter

## Main definitions

* `Zone` — what a time zone answers when it is asked for its offset
* `DateTime` — a date and a time of day with or without a time zone
* `Zone.answer` — the offset, or the exception that is raised in place of one
* `DateTime.fault?` — what is wrong with fields that are no date and time
-/

namespace InterpreterHost

/-- What the time zone of a date and time answers when it is asked for its offset. -/
inductive Zone where
  /-- The duration that the zone was made with, in microseconds. -/
  | fixed (micros : Int)
  /-- A plain duration, in microseconds, from a zone of a class of its own. -/
  | offset (micros : Int)
  /-- An instance of a class derived from that of durations. -/
  | derived (micros : Int)
  /-- No offset: the time is naive after all. -/
  | absent
  /-- An exception. -/
  | raises (e : Raised)
deriving DecidableEq, Repr, Inhabited

namespace Zone

/-- A zone that answers with something that is no duration. -/
def malformed : Zone :=
  raises (.builtin "TypeError" "tzinfo.utcoffset() must return None or timedelta, not 'str'")

/-- A zone the code of which raises an exception. -/
def raising : Zone := raises (Raised.through "utcoffset" (.builtin "RuntimeError" "no offset"))

/-- A zone for which memory runs out. -/
def exhausted : Zone := raises .exhausted

/-- Whether the zone answers that memory ran out. -/
def exhausts : Zone → Bool
  | raises e => e.thrown.exceptionClass.isMemoryError
  | _ => false

end Zone

/-- The name of the type of a zone. -/
def Zone.typeName : Zone → String
  | fixed _ => "datetime.timezone"
  | _ => "Tz"

/-- A date and a time of day to the microsecond, with or without a time zone. -/
structure DateTime where
  date : Date
  hour : Nat
  minute : Nat
  second : Nat
  micros : Nat
  zone : Option Zone := none
  /-- Whether it is the second time that clocks show this, where they were put back. -/
  fold : Bool := false
deriving DecidableEq, Repr, Inhabited

namespace DateTime

/-- Whether the fields are those of some day and some time of day. -/
def isValid (t : DateTime) : Bool :=
  t.date.isValid && t.hour < 24 && t.minute < 60 && t.second < 60 && t.micros < 1000000

/-- The microseconds of a day. -/
def dayMicros : Int := 86400000000

/-- Whether a duration can be the offset of a time zone: it is less than a day either way. -/
def isOffset (micros : Int) : Bool := -dayMicros < micros && micros < dayMicros

/-- The words that stand before the limits of an offset. -/
def offsetLimits : String :=
  "offset must be a timedelta strictly between -timedelta(hours=24) and timedelta(hours=24)"

/-- What is wrong with a day of the calendar or with a time of day, if something is: the first of the fields that is
out of its range says so. -/
def fault? (year month day hour minute second micros : Int) : Option String :=
  if year < 1 ∨ 9999 < year then some s!"year {year} is out of range"
  else if month < 1 ∨ 12 < month then some "month must be in 1..12"
  else if day < 1 ∨ Date.monthLength year month.toNat < day then some "day is out of range for month"
  else if hour < 0 ∨ 23 < hour then some "hour must be in 0..23"
  else if minute < 0 ∨ 59 < minute then some "minute must be in 0..59"
  else if second < 0 ∨ 59 < second then some "second must be in 0..59"
  else if micros < 0 ∨ 999999 < micros then some "microsecond must be in 0..999999"
  else none

/-- The microseconds from the epoch to the date and time, if clocks show universal time. -/
def wallMicros (t : DateTime) : Int :=
  t.date.toDays * dayMicros + ((t.hour * 3600 + t.minute * 60 + t.second : Nat) : Int) * 1000000 + t.micros

end DateTime

/-- The offset that a time zone answers, in microseconds; none if it has none. -/
def Zone.answer : Zone → Except Raised (Option Int)
  | fixed micros => .ok (some micros)
  | offset micros | derived micros =>
    if DateTime.isOffset micros then .ok (some micros)
    else .error (.builtin "ValueError" (DateTime.offsetLimits ++ "."))
  | absent => .ok none
  | raises e => .error e

/-- What a date and time is away from universal time, in microseconds; none if it is naive. -/
def DateTime.offset (t : DateTime) : Except Raised (Option Int) :=
  match t.zone with
  | some zone => zone.answer
  | none => .ok none

end InterpreterHost
