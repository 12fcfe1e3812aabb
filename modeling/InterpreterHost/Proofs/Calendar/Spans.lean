import InterpreterHost.Proofs.Calendar.Range

/-!
# Spans of time

The offset of a time zone comes in days, seconds and microseconds, which are added up to a span of
time; the span is then taken from an instant.  The numbers of a clock have limits: a span is kept to
so many milliseconds, and dates to so many years.  No offset comes near either limit, so that the
arithmetic never fails and is that of the integers.

## Main definitions

* `Duration` — a duration in the fields that the interpreter keeps
* `Span` — a span of time within the limits of the clock
* `Span.ofDays?`, `Span.ofSeconds?`, `Span.add?`, `Timestamp.minus?` — arithmetic that may fail
* `Duration.span?` — the span of a duration
* `DateTime.universal?` — the clock of a date and time less a duration

## Main statements

* `Duration.span?_eq` — the span of an offset
* `DateTime.universal?_eq` — an offset is taken from a clock without fail
-/

namespace InterpreterHost

/-- A duration as the interpreter keeps it: whole days, and the seconds and microseconds after them.
Durations below zero have days below zero. -/
structure Duration where
  days : Int
  seconds : Nat
  micros : Nat
  seconds_lt : seconds < 86400
  micros_lt : micros < 1000000
deriving DecidableEq, Repr

namespace Duration

/-- The whole duration in microseconds. -/
def total (d : Duration) : Int := d.days * DateTime.dayMicros + d.seconds * 1000000 + d.micros

theorem seconds_lt_day (m : Int) : (m % DateTime.dayMicros / 1000000).toNat < 86400 := by
  simp only [DateTime.dayMicros]
  omega

theorem micros_lt_second (m : Int) : (m % 1000000).toNat < 1000000 := by omega

/-- The duration of that many microseconds. -/
def ofMicros (m : Int) : Duration where
  days := m / DateTime.dayMicros
  seconds := (m % DateTime.dayMicros / 1000000).toNat
  micros := (m % 1000000).toNat
  seconds_lt := seconds_lt_day m
  micros_lt := micros_lt_second m

theorem total_ofMicros (m : Int) : (ofMicros m).total = m := by
  simp only [total, ofMicros, DateTime.dayMicros]
  omega

end Duration

/-! ## Spans -/

/-- A span of time: whole seconds, and nanoseconds after them. -/
structure Span where
  seconds : Int
  nanos : Nat
deriving DecidableEq, Repr

namespace Span

/-- The whole span in nanoseconds. -/
def total (s : Span) : Int := s.seconds * 1000000000 + s.nanos

/-- The longest span, in nanoseconds: as many milliseconds as there are integers of 64 bits above
zero. -/
def longest : Int := 0x7fffffffffffffff * 1000000

/-- The span, if it is not too long. -/
def checked (s : Span) : Option Span := if -longest ≤ s.total ∧ s.total ≤ longest then some s else none

def ofSeconds? (n : Int) : Option Span := checked ⟨n, 0⟩

def ofDays? (n : Int) : Option Span := if isInt64 (n * 86400) then ofSeconds? (n * 86400) else none

def ofMicros (m : Int) : Span := ⟨m / 1000000, (m % 1000000).toNat * 1000⟩

/-- The sum of two spans, with a second carried over from the nanoseconds. -/
def add? (s s' : Span) : Option Span :=
  if s.nanos + s'.nanos < 1000000000 then checked ⟨s.seconds + s'.seconds, s.nanos + s'.nanos⟩
  else checked ⟨s.seconds + s'.seconds + 1, s.nanos + s'.nanos - 1000000000⟩

theorem checked_eq {s : Span} (short : -longest ≤ s.total ∧ s.total ≤ longest) : s.checked = some s :=
  if_pos short

end Span

namespace Timestamp

/-- The first and the last of the years that dates are kept for. -/
def firstYear : Int := -262143

def lastYear : Int := 262142

/-- The second, counted from the beginning of the day of an instant, that a span is taken to; it may
be one of another day.  Nanoseconds are borrowed from it. -/
def secondLess (t : Timestamp) (s : Span) : Int :=
  t.secondOfDay - s.seconds + ((t.nanos : Int) - s.nanos) / 1000000000

/-- An instant outside of leap seconds less a span.  Seconds are borrowed from the days; the date is
that of the day that comes out, if dates are kept for its year. -/
def minus? (t : Timestamp) (s : Span) : Option Timestamp :=
  let date := Date.ofDays (t.date.toDays + t.secondLess s / 86400)
  if firstYear ≤ date.year ∧ date.year ≤ lastYear then
    some ⟨date.toDays * 86400 + t.secondLess s % 86400, (((t.nanos : Int) - s.nanos) % 1000000000).toNat⟩
  else none

end Timestamp

/-- The sum of the days, the seconds and the microseconds of a duration. -/
def Duration.span? (d : Duration) : Option Span := do
  let days ← Span.ofDays? d.days
  let seconds ← Span.ofSeconds? d.seconds
  (← days.add? seconds).add? (.ofMicros d.micros)

/-- The instant at which the clock of a date and time that is ahead by a duration shows what it
does. -/
def DateTime.universal? (t : DateTime) (ahead : Duration) : Option Timestamp := do
  t.wallClock.minus? (← ahead.span?)

/-! ## Offsets -/

theorem DateTime.isOffset_iff {m : Int} : isOffset m ↔ -86400000000 < m ∧ m < 86400000000 := by
  simp only [isOffset, Bool.and_eq_true, decide_eq_true_eq]
  exact Iff.rfl

/-- The span of an offset is found, and it is as long as the offset. -/
theorem Duration.span?_eq {d : Duration} (offset : DateTime.isOffset d.total) :
    d.span? = some (.ofMicros d.total) := by
  obtain ⟨days, seconds, micros, seconds_lt, micros_lt⟩ := d
  -- The days of an offset are 0 or -1.
  have short : -1 ≤ days ∧ days ≤ 0 := by
    have bounds := DateTime.isOffset_iff.1 offset
    simp only [total, DateTime.dayMicros] at bounds
    omega
  have wholeDays : Span.ofDays? days = some ⟨days * 86400, 0⟩ := by
    have fits : isInt64 (days * 86400) := by
      simp only [isInt64, Bool.and_eq_true, decide_eq_true_eq]
      omega
    rw [Span.ofDays?, if_pos fits]
    refine Span.checked_eq ?_
    simp only [Span.total, Span.longest]
    omega
  have wholeSeconds : Span.ofSeconds? seconds = some ⟨seconds, 0⟩ := by
    refine Span.checked_eq ?_
    simp only [Span.total, Span.longest]
    omega
  have both : Span.add? ⟨days * 86400, 0⟩ ⟨seconds, 0⟩ = some ⟨days * 86400 + seconds, 0⟩ := by
    have carry : 0 + 0 < 1000000000 := by decide
    rw [Span.add?, if_pos carry]
    refine Span.checked_eq ?_
    simp only [Span.total, Span.longest]
    omega
  have fraction : Span.ofMicros micros = ⟨0, micros * 1000⟩ := by
    simp only [Span.ofMicros, Span.mk.injEq]
    omega
  have all : Span.add? ⟨days * 86400 + seconds, 0⟩ ⟨0, micros * 1000⟩ =
      some ⟨days * 86400 + seconds, micros * 1000⟩ := by
    have carry : 0 + micros * 1000 < 1000000000 := by omega
    rw [Span.add?, if_pos carry, Int.add_zero, Nat.zero_add]
    refine Span.checked_eq ?_
    simp only [Span.total, Span.longest]
    omega
  have whole : Span.ofMicros (days * DateTime.dayMicros + seconds * 1000000 + micros) =
      ⟨days * 86400 + seconds, micros * 1000⟩ := by
    simp only [Span.ofMicros, DateTime.dayMicros, Span.mk.injEq]
    omega
  simp only [span?, Option.bind_eq_bind, Option.bind_some, wholeDays, wholeSeconds, both, fraction, all,
    total, whole]

/-- A day of the calendar and one next to it are in the years from 0 to 10000. -/
theorem Date.year_bounds {days : Int} (lower : -719163 ≤ days) (upper : days ≤ 2932897) :
    0 ≤ (ofDays days).year ∧ (ofDays days).year ≤ 10000 := by
  have bounds := Calendar.daysBeforeYear_yearOfDay (days + Calendar.epochDays)
  have year : (ofDays days).year = Calendar.yearOfDay (days + Calendar.epochDays) := rfl
  rw [← year] at bounds
  simp only [Calendar.daysBeforeYear, Calendar.epochDays] at bounds
  omega

/-- Taking one count of microseconds from another, in seconds and nanoseconds and with what is
borrowed, is subtraction. -/
theorem Timestamp.minus?_ofMicros {m k : Int} (lower : -719163 ≤ (m - k) / 86400000000)
    (upper : (m - k) / 86400000000 ≤ 2932897) :
    (ofMicros m).minus? (.ofMicros k) = some (ofMicros (m - k)) := by
  have second : (ofMicros m).secondLess (.ofMicros k) =
      m / 1000000 % 86400 + ((m - k) / 1000000 - m / 1000000) := by
    simp only [secondLess, secondOfDay, ofMicros, Span.ofMicros]
    omega
  have day : (ofMicros m).date.toDays + (ofMicros m).secondLess (.ofMicros k) / 86400 =
      (m - k) / 86400000000 := by
    rw [date, Date.toDays_ofDays, second]
    simp only [ofMicros]
    omega
  have years := Date.year_bounds lower upper
  simp only [minus?, day, Date.toDays_ofDays]
  rw [if_pos, second]
  · simp only [ofMicros, Span.ofMicros, Option.some.injEq, Timestamp.mk.injEq]
    omega
  · simp only [firstYear, lastYear]
    omega

namespace DateTime

/-- An offset takes a date and time of the calendar at most to the day before or the day after it. -/
theorem day_bounds {t : DateTime} (valid : t.isValid) (year : hasYear t.date.year) {m : Int}
    (offset : isOffset m) :
    -719163 ≤ (t.wallMicros - m) / 86400000000 ∧ (t.wallMicros - m) / 86400000000 ≤ 2932897 := by
  have bounds := wallMicros_bounds valid year
  have lower : first.wallMicros = -719162 * dayMicros := by decide
  have upper : last.wallMicros = 2932896 * dayMicros + 86399999999 := by decide
  rw [isOffset_iff] at offset
  rw [lower, upper, dayMicros] at bounds
  omega

/-- An offset is taken from the clock of a date and time of the calendar without fail, and the
instant is that of the microseconds of the clock less those of the offset. -/
theorem universal?_eq {t : DateTime} (valid : t.isValid) (year : hasYear t.date.year) {d : Duration}
    (offset : isOffset d.total) : t.universal? d = some (.ofMicros (t.wallMicros - d.total)) := by
  obtain ⟨lower, upper⟩ := day_bounds valid year offset
  rw [universal?, Duration.span?_eq offset, wallClock_eq_ofMicros valid]
  exact Timestamp.minus?_ofMicros lower upper

/-- The instant may be in the year before the calendar or in the one after it, but is in no other. -/
theorem year_ofMicros {t : DateTime} (valid : t.isValid) (year : hasYear t.date.year) {m : Int}
    (offset : isOffset m) :
    0 ≤ (Timestamp.ofMicros (t.wallMicros - m)).date.year ∧
      (Timestamp.ofMicros (t.wallMicros - m)).date.year ≤ 10000 := by
  obtain ⟨lower, upper⟩ := day_bounds valid year offset
  have day : (Timestamp.ofMicros (t.wallMicros - m)).seconds / 86400 = (t.wallMicros - m) / 86400000000 := by
    simp only [Timestamp.ofMicros]
    omega
  rw [Timestamp.date, day]
  exact Date.year_bounds lower upper

end DateTime

end InterpreterHost
