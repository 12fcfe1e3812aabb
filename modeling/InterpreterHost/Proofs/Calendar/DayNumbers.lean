import Mathlib.Data.Int.Init
import InterpreterHost.Proofs.Calendar.Range

/-!
# Days counted one by one

`Date.toDays` computes the number of a day from the year, the month and the day.  Here days are
counted as a wall calendar counts them: to the next day of the month, the first of the next month or
the first of the next year.  The computation agrees with the count, over leap years and centuries and
before the epoch as after it.

## Main definitions

* `Date.next` — the day after a date
* `Date.DayNumber` — the number of a day, counted from the epoch

## Main statements

* `Date.toDays_next` — the day after has the next number
* `Date.dayNumber_iff` — the number of a day is the one that is computed
-/

namespace InterpreterHost

namespace Calendar

theorem daysOf_take_succ (lengths : List Nat) (k : Nat) :
    daysOf (lengths.take (k + 1)) = daysOf (lengths.take k) + lengths.getD k 0 := by
  induction lengths generalizing k with
  | nil => simp [daysOf]
  | cons length lengths ih =>
    cases k with
    | zero => simp [daysOf]
    | succ k =>
      simp only [List.take_succ_cons, daysOf, ih k, List.getD_cons_succ]
      omega

end Calendar

namespace Date

open Calendar

/-- The day after a date. -/
def next (d : Date) : Date :=
  if d.day < monthLength d.year d.month then ⟨d.year, d.month, d.day + 1⟩
  else if d.month < 12 then ⟨d.year, d.month + 1, 1⟩
  else ⟨d.year + 1, 1, 1⟩

/-- The number of a day: the epoch has the number 0, and each day has the one after that of the day
before. -/
inductive DayNumber : Date → Int → Prop where
  | epoch : DayNumber ⟨1970, 1, 1⟩ 0
  | next {d : Date} {n : Int} : DayNumber d n → DayNumber d.next (n + 1)
  | before {d : Date} {n : Int} : d.isValid → DayNumber d.next n → DayNumber d (n - 1)

theorem isValid_iff {d : Date} :
    d.isValid ↔ (1 ≤ d.month ∧ d.month ≤ 12) ∧ 1 ≤ d.day ∧ d.day ≤ monthLength d.year d.month := by
  simp only [isValid, Bool.and_eq_true, decide_eq_true_eq, and_assoc]

/-- No month is without days. -/
theorem monthLength_pos (year : Int) {month : Nat} (first : 1 ≤ month) (last : month ≤ 12) :
    1 ≤ monthLength year month := by
  have lengths : ∀ length ∈ monthLengths year, 1 ≤ length := by
    unfold monthLengths
    cases isLeapYear year <;> decide
  have inside : month - 1 < (monthLengths year).length := by
    change month - 1 < 12
    omega
  rw [monthLength, List.getD_eq_getElem?_getD, List.getElem?_eq_getElem inside]
  exact lengths _ (List.getElem_mem inside)

theorem isValid_next {d : Date} (valid : d.isValid) : d.next.isValid := by
  obtain ⟨⟨first, last⟩, -, -⟩ := isValid_iff.1 valid
  unfold next
  split
  · next within => exact isValid_iff.2 ⟨⟨first, last⟩, Nat.le_add_left .., within⟩
  · split
    · next month =>
      have one : 1 ≤ d.month + 1 := Nat.le_add_left ..
      exact isValid_iff.2 ⟨⟨one, month⟩, Nat.le_refl 1, monthLength_pos _ one month⟩
    · have january : 1 ≤ 12 := by decide
      exact isValid_iff.2 ⟨⟨Nat.le_refl 1, january⟩, Nat.le_refl 1, monthLength_pos _ (Nat.le_refl 1) january⟩

/-- The day after has the next number, be it in the same month, in the next month or in the next
year. -/
theorem toDays_next {d : Date} (valid : d.isValid) : d.next.toDays = d.toDays + 1 := by
  obtain ⟨⟨first, last⟩, one, length⟩ := isValid_iff.1 valid
  obtain ⟨k, month⟩ : ∃ k, d.month = k + 1 := ⟨d.month - 1, by omega⟩
  have sum := daysOf_take_succ (monthLengths d.year) k
  have months : monthLength d.year d.month = (monthLengths d.year).getD k 0 := by
    rw [monthLength, month, Nat.add_sub_cancel]
  unfold next
  split
  · simp only [toDays]
    omega
  · next ended =>
    split
    · simp only [toDays, month, Nat.add_sub_cancel]
      omega
    · next december =>
      -- The months of a year are as long as the year.
      have year := daysOf_monthLengths d.year
      obtain rfl : k = 11 := by omega
      have all : (monthLengths d.year).take (11 + 1) = monthLengths d.year := rfl
      rw [all] at sum
      simp only [toDays, month, daysBeforeYear_succ, ← year, Nat.add_sub_cancel, Nat.sub_self,
        List.take_zero, daysOf]
      omega

/-- The date of the number after is the date of the day after. -/
theorem next_ofDays (n : Int) : (ofDays n).next = ofDays (n + 1) := by
  have number := toDays_next (isValid_ofDays n)
  rw [toDays_ofDays] at number
  rw [← number, ofDays_toDays (isValid_next (isValid_ofDays n))]

/-- Every number is that of its date. -/
theorem dayNumber_ofDays (n : Int) : (ofDays n).DayNumber n := by
  induction n using Int.induction_on with
  | zero => exact .epoch
  | succ n ih =>
    rw [← next_ofDays]
    exact ih.next
  | pred n ih =>
    refine .before (isValid_ofDays _) ?_
    rwa [next_ofDays, Int.sub_add_cancel]

/-- The number that a day has by the count is the one that is computed. -/
theorem dayNumber_iff {d : Date} {n : Int} : d.DayNumber n ↔ d.isValid ∧ d.toDays = n := by
  constructor
  · intro counted
    induction counted with
    | epoch => exact ⟨rfl, rfl⟩
    | next _ ih =>
      obtain ⟨valid, rfl⟩ := ih
      exact ⟨isValid_next valid, toDays_next valid⟩
    | before valid _ ih =>
      obtain ⟨-, rfl⟩ := ih
      refine ⟨valid, ?_⟩
      rw [toDays_next valid, Int.add_sub_cancel]
  · rintro ⟨valid, rfl⟩
    have counted := dayNumber_ofDays d.toDays
    rwa [ofDays_toDays valid] at counted

end Date

end InterpreterHost
