import InterpreterHost.Marshal.FromObject
import InterpreterHost.Proofs.Calendar.Days

/-!
# The range of the calendar

The calendar of the interpreter goes from the year 1 to the year 9999.  A date with a time zone is
shifted by less than a day when it is brought to universal time, so that only one which is less than
a day away from an end of the calendar can be shifted out of it.

## Main definitions

* `Zone.known` — the offset of a time zone, if it is known
* `DateTime.instant` — the instant of a date and time
* `DateTime.AtEdge` — less than a day away from the first or the last date and time

## Main statements

* `Date.ofDays_toDays` — the date of the day of a date
* `Date.hasYear_ofDays_iff` — the days of the calendar
* `DateTime.atEdge_of_instant` — which dates are shifted out of the calendar
* `DateTime.ofTimestamp_instant` — a date without a time zone is its instant
-/

namespace InterpreterHost

namespace Calendar

/-- The years follow each other. -/
theorem daysBeforeYear_le {year year' : Int} (before : year < year') :
    daysBeforeYear (year + 1) ≤ daysBeforeYear year' := by
  simp only [daysBeforeYear]
  omega

/-- There is only one year that a day falls in. -/
theorem yearOfDay_eq {year day : Int} (started : daysBeforeYear year ≤ day)
    (ended : day < daysBeforeYear (year + 1)) : yearOfDay day = year := by
  have bounds := daysBeforeYear_yearOfDay day
  rcases Int.lt_trichotomy (yearOfDay day) year with before | same | after
  · have ordered := daysBeforeYear_le before
    omega
  · exact same
  · have ordered := daysBeforeYear_le after
    omega

/-- A day of a month is a day of the year. -/
theorem daysOf_take_lt {lengths : List Nat} {k d : Nat} (fits : d < lengths.getD k 0) :
    daysOf (lengths.take k) + d < daysOf lengths := by
  induction lengths generalizing k with
  | nil => simp at fits
  | cons length lengths ih =>
    cases k with
    | zero =>
      have early : d < length := by simpa using fits
      simp only [List.take_zero, daysOf]
      omega
    | succ k =>
      have rest := ih (k := k) (by simpa using fits)
      simp only [List.take_succ_cons, daysOf]
      omega

/-- The walk through the months ends at the month that a day was counted in. -/
theorem monthOfDay_eq {lengths : List Nat} {k d : Nat} (fits : d < lengths.getD k 0) (month : Nat) :
    monthOfDay lengths month (daysOf (lengths.take k) + d) = (month + k, d) := by
  induction lengths generalizing k month with
  | nil => simp at fits
  | cons length lengths ih =>
    cases k with
    | zero =>
      have early : d < length := by simpa using fits
      simp [monthOfDay, daysOf, early]
    | succ k =>
      have walk := ih (k := k) (by simpa using fits) (month + 1)
      have later : ¬ daysOf ((length :: lengths).take (k + 1)) + d < length := by
        simp only [List.take_succ_cons, daysOf]
        omega
      have rest : daysOf ((length :: lengths).take (k + 1)) + d - length =
          daysOf (lengths.take k) + d := by
        simp only [List.take_succ_cons, daysOf]
        omega
      rw [monthOfDay, if_neg later, rest, walk, Nat.add_assoc, Nat.add_comm 1 k]

end Calendar

namespace Date

open Calendar

/-- The date of the day of a date is the date. -/
theorem ofDays_toDays {date : Date} (valid : date.isValid) : ofDays date.toDays = date := by
  obtain ⟨year, month, day⟩ := date
  simp only [isValid, monthLength, Bool.and_eq_true, decide_eq_true_eq] at valid
  obtain ⟨⟨⟨fromFirst, toLast⟩, fromFirst'⟩, toLast'⟩ := valid
  obtain ⟨k, rfl⟩ : ∃ k, month = k + 1 := ⟨month - 1, by omega⟩
  obtain ⟨d, rfl⟩ : ∃ d, day = d + 1 := ⟨day - 1, by omega⟩
  have fits : d < (monthLengths year).getD k 0 := of_decide_eq_true toLast'
  have total : (⟨year, k + 1, d + 1⟩ : Date).toDays + epochDays =
      daysBeforeYear year + (daysOf ((monthLengths year).take k) + d : Nat) := by
    simp only [toDays, Nat.add_sub_cancel]
    omega
  have within : daysOf ((monthLengths year).take k) + d < daysOf (monthLengths year) :=
    daysOf_take_lt fits
  have inYear : yearOfDay (daysBeforeYear year + (daysOf ((monthLengths year).take k) + d : Nat)) =
      year := by
    have length := daysOf_monthLengths year
    refine yearOfDay_eq (by omega) ?_
    rw [daysBeforeYear_succ, ← length]
    omega
  have dayOfYear : (daysBeforeYear year + (daysOf ((monthLengths year).take k) + d : Nat) -
      daysBeforeYear year).toNat = daysOf ((monthLengths year).take k) + d := by
    omega
  simp only [ofDays, total, inYear, dayOfYear, monthOfDay_eq fits 1]
  rw [Nat.add_comm 1 k]

/-- The days of the calendar, from the first of the year 1 to the last of the year 9999. -/
theorem hasYear_ofDays_iff (days : Int) :
    DateTime.hasYear (ofDays days).year ↔ -719162 ≤ days ∧ days ≤ 2932896 := by
  have year : (ofDays days).year = yearOfDay (days + epochDays) := rfl
  have bounds := daysBeforeYear_yearOfDay (days + epochDays)
  rw [← year] at bounds
  simp only [DateTime.hasYear, Bool.and_eq_true, decide_eq_true_eq]
  simp only [daysBeforeYear, epochDays] at bounds
  omega

end Date

/-! ## Instants -/

/-- The microseconds that a time zone is known to be ahead of universal time, if they are known: it
says so by a plain duration, or by having no offset. -/
def Zone.known (zone : Zone) : Option Int :=
  match zone, zone.answer with
  | .derived _, _ => none
  | _, .ok answer => some (answer.getD 0)
  | _, .error _ => none

/-- The durations that time zones are made with are shorter than a day; so are those that they
answer. -/
theorem Zone.isOffset_of_known {zone : Zone} (made : ∀ m, zone = .fixed m → DateTime.isOffset m) {m : Int}
    (known : zone.known = some m) : DateTime.isOffset m := by
  cases zone with
  | fixed micros =>
    cases known
    exact made _ rfl
  | offset micros =>
    by_cases within : DateTime.isOffset micros
    · simp only [Zone.known, Zone.answer, within, if_true, Option.getD_some, Option.some.injEq] at known
      rwa [← known]
    · simp [Zone.known, Zone.answer, within] at known
  | absent =>
    cases known
    rfl
  | derived _ | raises _ => cases known

namespace DateTime

/-- The instant of a date and time: that of its clock in universal time, less the offset if one is
known. -/
def instant (t : DateTime) : Timestamp :=
  match t.zone.bind Zone.known with
  | some micros => .ofMicros (t.wallMicros - micros)
  | none => t.wallClock

/-- The first date and time of the calendar. -/
def first : DateTime := { date := ⟨1, 1, 1⟩, hour := 0, minute := 0, second := 0, micros := 0 }

/-- The last date and time of the calendar. -/
def last : DateTime := { date := ⟨9999, 12, 31⟩, hour := 23, minute := 59, second := 59, micros := 999999 }

/-- Less than a day away from the first or the last date and time. -/
def AtEdge (t : DateTime) : Prop :=
  t.wallMicros - first.wallMicros < dayMicros ∨ last.wallMicros - t.wallMicros < dayMicros

/-- The parts of a date and time of day that exists. -/
theorem isValid_iff {t : DateTime} :
    t.isValid ↔ t.date.isValid ∧ t.hour < 24 ∧ t.minute < 60 ∧ t.second < 60 ∧ t.micros < 1000000 := by
  simp [isValid, and_assoc]

/-- The clock counts whole microseconds. -/
theorem toMicros_wallClock {t : DateTime} (valid : t.isValid) : t.wallClock.toMicros = t.wallMicros := by
  obtain ⟨-, -, -, -, micros⟩ := isValid_iff.1 valid
  simp only [wallClock, Timestamp.ofFields, Timestamp.toMicros, Timestamp.micros, wallMicros, dayMicros]
  omega

/-- The clock of a date in the calendar is in the calendar. -/
theorem wallMicros_bounds {t : DateTime} (valid : t.isValid) (year : hasYear t.date.year) :
    first.wallMicros ≤ t.wallMicros ∧ t.wallMicros ≤ last.wallMicros := by
  obtain ⟨date, hour, minute, second, micros⟩ := isValid_iff.1 valid
  rw [← Date.ofDays_toDays date, Date.hasYear_ofDays_iff] at year
  have lower : first.wallMicros = -719162 * dayMicros := by decide
  have upper : last.wallMicros = 2932896 * dayMicros + 86399999999 := by decide
  rw [lower, upper]
  simp only [wallMicros, dayMicros]
  omega

/-- The date of an instant is in the calendar if the instant is. -/
theorem hasYear_ofMicros_iff (m : Int) :
    hasYear (Timestamp.ofMicros m).date.year ↔ first.wallMicros ≤ m ∧ m ≤ last.wallMicros := by
  have lower : first.wallMicros = -719162 * dayMicros := by decide
  have upper : last.wallMicros = 2932896 * dayMicros + 86399999999 := by decide
  rw [Timestamp.date, Date.hasYear_ofDays_iff, lower, upper]
  simp only [Timestamp.ofMicros, dayMicros]
  omega

/-- The clock of a date and time is the instant of its microseconds. -/
theorem wallClock_eq_ofMicros {t : DateTime} (valid : t.isValid) :
    t.wallClock = .ofMicros t.wallMicros := by
  obtain ⟨-, -, -, -, micros⟩ := isValid_iff.1 valid
  simp only [wallClock, Timestamp.ofFields, Timestamp.ofMicros, wallMicros, dayMicros,
    Timestamp.mk.injEq]
  omega

/-- Instants are counted in whole microseconds, without leap seconds. -/
theorem instant_whole {t : DateTime} (valid : t.isValid) :
    t.instant.nanos < 1000000000 ∧ t.instant.nanos % 1000 = 0 := by
  rw [instant, wallClock_eq_ofMicros valid]
  split <;> simp only [Timestamp.ofMicros] <;> omega

/-- Only a date with a time zone can be shifted out of the calendar, and only if it is less than a day
away from one of its ends. -/
theorem atEdge_of_instant {t : DateTime} (valid : t.isValid) (year : hasYear t.date.year)
    (made : ∀ m, t.zone = some (.fixed m) → isOffset m) (shifted : ¬ hasYear t.instant.date.year) :
    t.zone ≠ none ∧ t.AtEdge := by
  have bounds := wallMicros_bounds valid year
  rw [instant, wallClock_eq_ofMicros valid] at shifted
  cases zone : t.zone with
  | none =>
    -- A date without a time zone stays where it is.
    simp only [zone, Option.bind_none, hasYear_ofMicros_iff] at shifted
    exact absurd bounds shifted
  | some zone' =>
    refine ⟨nofun, ?_⟩
    rw [zone, Option.bind_some] at shifted
    cases known : zone'.known with
    | none =>
      simp only [known, hasYear_ofMicros_iff] at shifted
      exact absurd bounds shifted
    | some m =>
      have short : isOffset m := by
        refine Zone.isOffset_of_known (fun m' same => made m' ?_) known
        rw [zone, same]
      simp only [known, hasYear_ofMicros_iff] at shifted
      simp only [isOffset, Bool.and_eq_true, decide_eq_true_eq] at short
      unfold AtEdge
      omega

/-- A date without a time zone is what its instant is written as, but for which of two times that clocks show alike
it is. -/
theorem ofTimestamp_instant {t : DateTime} (valid : t.isValid) (naive : t.zone = none) :
    ofTimestamp t.instant = { t with fold := false } := by
  obtain ⟨date, hour, minute, second, micros, zone, fold⟩ := t
  obtain rfl : zone = none := naive
  obtain ⟨day, hours, minutes, seconds, whole⟩ := isValid_iff.1 valid
  dsimp only at day hours minutes seconds whole
  have date' : (date.toDays * 86400 + (hour * 3600 + minute * 60 + second : Nat)) / 86400 = date.toDays := by
    omega
  have time : ((date.toDays * 86400 + (hour * 3600 + minute * 60 + second : Nat)) % 86400).toNat =
      hour * 3600 + minute * 60 + second := by
    omega
  simp only [instant, Option.bind_none, ofTimestamp, wallClock, Timestamp.ofFields, Timestamp.date,
    Timestamp.hour, Timestamp.minute, Timestamp.second, Timestamp.secondOfDay, Timestamp.micros, date',
    time, Date.ofDays_toDays day, DateTime.mk.injEq, true_and, and_true]
  omega

end DateTime

end InterpreterHost
