import InterpreterHost.Calendar

/-!
# Days and dates

Every day has a date, the date exists, and it is on that day: the estimate of the year is corrected by
one year at most, and the walk through the months ends within the year.

## Main statements

* `Calendar.daysBeforeYear_yearOfDay` — the year that a day falls in
* `Calendar.monthOfDay_spec` — the month that a day of the year falls in
* `Date.toDays_ofDays`, `Date.isValid_ofDays` — the date of a day
-/

namespace InterpreterHost

namespace Calendar

/-! ## Years -/

/-- A year ends where the next begins. -/
theorem daysBeforeYear_succ (year : Int) :
    daysBeforeYear (year + 1) = daysBeforeYear year + if isLeapYear year then 366 else 365 := by
  have leap : isLeapYear year = true ↔ year % 4 = 0 ∧ (year % 100 ≠ 0 ∨ year % 400 = 0) := by
    simp [isLeapYear]
  simp only [daysBeforeYear]
  split
  · next h =>
    have divides := leap.1 h
    omega
  · next h =>
    have divides := mt leap.2 h
    omega

theorem daysOf_monthLengths (year : Int) :
    (daysOf (monthLengths year) : Int) = if isLeapYear year then 366 else 365 := by
  unfold monthLengths
  cases isLeapYear year <;> rfl

/-- Years are as long as their mean up to less than two days in sum. -/
theorem daysBeforeYear_mean (year : Int) :
    146097 * (year - 1) - 800 < 400 * daysBeforeYear year ∧
      400 * daysBeforeYear year < 146097 * (year - 1) + 800 := by
  simp only [daysBeforeYear]
  omega

/-- A day falls in the year of which it is said to be. -/
theorem daysBeforeYear_yearOfDay (day : Int) :
    daysBeforeYear (yearOfDay day) ≤ day ∧ day < daysBeforeYear (yearOfDay day + 1) := by
  -- The estimate is the year, the one before it or the one after it.
  let estimate := day * 400 / 146097 + 1
  have before := daysBeforeYear_mean (estimate - 1)
  have after := daysBeforeYear_mean (estimate + 1 + 1)
  have year : yearOfDay day =
      if day < daysBeforeYear estimate then estimate - 1
      else if daysBeforeYear (estimate + 1) ≤ day then estimate + 1 else estimate := rfl
  rw [year]
  split
  · rw [Int.sub_add_cancel]
    omega
  · split
    · omega
    · omega

/-! ## Months -/

/-- The walk through the months ends at the one in which the day falls. -/
theorem monthOfDay_spec {lengths : List Nat} {day : Nat} (within : day < daysOf lengths) (month : Nat) :
    ∃ k d, monthOfDay lengths month day = (month + k, d) ∧ k < lengths.length ∧
      d < lengths.getD k 0 ∧ daysOf (lengths.take k) + d = day := by
  induction lengths generalizing day month with
  | nil => exact absurd within (Nat.not_lt_zero day)
  | cons length lengths ih =>
    by_cases early : day < length
    · refine ⟨0, day, ?_, by simp, by simpa using early, by simp [daysOf]⟩
      rw [monthOfDay, if_pos early, Nat.add_zero]
    · have rest : day - length < daysOf lengths := by
        rw [daysOf] at within
        omega
      obtain ⟨k, d, walk, inside, fits, total⟩ := ih rest (month + 1)
      refine ⟨k + 1, d, ?_, by simpa using inside, by simpa using fits, ?_⟩
      · rw [monthOfDay, if_neg early, walk, Nat.add_assoc, Nat.add_comm 1 k]
      · rw [List.take_succ_cons, daysOf]
        omega

end Calendar

namespace Date

open Calendar

/-- The parts of the date of a day. -/
theorem exists_ofDays (days : Int) :
    ∃ year k d, ofDays days = ⟨year, k + 1, d + 1⟩ ∧ k < 12 ∧ d < (monthLengths year).getD k 0 ∧
      daysBeforeYear year + (daysOf ((monthLengths year).take k) + d : Nat) = days + epochDays := by
  have bounds := daysBeforeYear_yearOfDay (days + epochDays)
  obtain ⟨year, equal⟩ : ∃ year, yearOfDay (days + epochDays) = year := ⟨_, rfl⟩
  rw [equal] at bounds
  have within : (days + epochDays - daysBeforeYear year).toNat < daysOf (monthLengths year) := by
    have sum := daysOf_monthLengths year
    rw [daysBeforeYear_succ, ← sum] at bounds
    omega
  obtain ⟨k, d, walk, months, fits, total⟩ := monthOfDay_spec within 1
  refine ⟨year, k, d, ?_, months, fits, ?_⟩
  · simp only [ofDays, equal]
    rw [walk, Nat.add_comm 1 k]
  · omega

/-- The date of a day is on that day. -/
theorem toDays_ofDays (days : Int) : (ofDays days).toDays = days := by
  obtain ⟨year, k, d, date, -, -, total⟩ := exists_ofDays days
  rw [date]
  simp only [toDays, Nat.add_sub_cancel]
  omega

/-- The date of a day exists. -/
theorem isValid_ofDays (days : Int) : (ofDays days).isValid := by
  obtain ⟨year, k, d, date, months, fits, -⟩ := exists_ofDays days
  rw [date]
  simp only [isValid, monthLength, Nat.add_sub_cancel, Bool.and_eq_true, decide_eq_true_eq]
  omega

end Date

end InterpreterHost
