import InterpreterHost.Proofs.Calendar.Days
import InterpreterHost.Proofs.Marshal.Making
import InterpreterHost.Proofs.Marshal.Placement

/-!
# There and back

A value that is made objects of and read from them again is the same value, cut to microseconds,
unless it is too deep to be read.

## Main definitions

* `Job.Gives` — the job gives a result, leaves no exception and does not panic

## Main statements

* `DateTime.wallClock_ofTimestamp` — instants go through the calendar unchanged
* `Job.gives_convert` — reading the objects of a value
* `Job.ends_toObject` — making objects of a value
* `Job.fromObject_toObject` — there and back
-/

namespace InterpreterHost

/-! ## Instants -/

namespace DateTime

theorem isValid_ofTimestamp (t : Timestamp) : (ofTimestamp t).isValid := by
  have date : t.date.isValid := Date.isValid_ofDays (t.seconds / 86400)
  have hour : t.hour < 24 := by
    unfold Timestamp.hour Timestamp.secondOfDay
    omega
  have minute : t.minute < 60 := Nat.mod_lt _ (by decide)
  have second : t.second < 60 := Nat.mod_lt _ (by decide)
  have micros : t.micros < 1000000 := by
    unfold Timestamp.micros
    omega
  simp [isValid, ofTimestamp, date, hour, minute, second, micros]

/-- The clock shows the instant, cut to microseconds. -/
theorem wallClock_ofTimestamp (t : Timestamp) : (ofTimestamp t).wallClock = t.truncate := by
  have day : t.date.toDays = t.seconds / 86400 := Date.toDays_ofDays (t.seconds / 86400)
  have time : t.hour * 3600 + t.minute * 60 + t.second = t.secondOfDay := by
    unfold Timestamp.hour Timestamp.minute Timestamp.second
    omega
  have seconds : t.seconds / 86400 * 86400 + (t.secondOfDay : Int) = t.seconds := by
    unfold Timestamp.secondOfDay
    omega
  simp only [wallClock, ofTimestamp, Timestamp.ofFields, Timestamp.truncate, day, time, seconds]

end DateTime

/-! ## Entries -/

theorem Value.keys_truncateEntries (entries : List (String × Value)) :
    Entries.keys (truncateEntries entries) = Entries.keys entries := by
  induction entries with
  | nil => rfl
  | cons e entries ih =>
    rw [truncateEntries, Entries.keys_cons, Entries.keys_cons, ih]

namespace Job

open Owner (Steady)

/-! ## Reading -/

/-- The job gives a result, leaves no exception and does not panic. -/
def Gives (code : Job α) (o : Owner) (a : α) : Prop :=
  Ends code o (fun result o' => result = a ∧ Steady o o' ∧ o'.pending = none) fun _ => False

namespace Gives

variable {o : Owner}

theorem pure (calm : o.pending = none) (a : α) : Gives (pure a) o a := ⟨rfl, .refl o, calm⟩

theorem bind {code : Job α} {next : α → Job β} {a : α} {b : β} (first : Gives code o a)
    (second : ∀ o', Steady o o' → o'.pending = none → Gives (next a) o' b) :
    Gives (code >>= next) o b := by
  rw [Gives, ends_bind]
  refine first.imp ?_
  rintro a' o₁ ⟨rfl, steady, calm⟩
  refine (second o₁ steady calm).imp ?_
  rintro b' o₂ ⟨rfl, steady', calm'⟩
  exact ⟨rfl, steady.trans steady', calm'⟩

/-- A container is recognised whether or not there are dates. -/
theorem bind_prepareDates {next : Except String Unit → Job β} {b : β} (calm : o.pending = none)
    (second : ∀ ready o', (o.hasDates → ready = .ok ()) → Steady o o' → o'.pending = none →
      Gives (next ready) o' b) : Gives (prepareDates >>= next) o b := by
  rw [Gives, ends_bind]
  refine (ends_prepareDates_calm calm).imp ?_
  rintro ready o₁ ⟨dates, steady, calm₁⟩
  refine (second ready o₁ dates.2 steady calm₁).imp ?_
  rintro b' o₂ ⟨rfl, steady', calm'⟩
  exact ⟨rfl, steady.trans steady', calm'⟩

end Gives

/-- What is made of a value if it is not too deep. -/
def verdict (fits : Prop) [Decidable fits] (a : α) : Except CallError α :=
  if fits then .ok a else .error tooDeep

theorem map_verdict (fits : Prop) [Decidable fits] (a : α) (f : α → β) :
    (verdict fits a).map f = verdict fits (f a) := by
  unfold verdict
  split <;> rfl

/-- What is to be shown of reading the objects of a value. -/
def ReadsBack (v : Value) : Prop :=
  ∀ (levels : Nat) (r : Ref) (o : Owner), o.pending = none → o.interpreter.heap.Holds v r →
    (v.hasTimestamp → o.hasDates) → v.Ordered →
      Gives (convert levels r) o (verdict (v.depth < levels) v.truncate)

theorem gives_convertItems {items : List Value} (parts : ∀ v ∈ items, ReadsBack v) (levels : Nat)
    {refs : List Ref} {o : Owner} (calm : o.pending = none)
    (holds : o.interpreter.heap.HoldsAll items refs) (dates : Value.anyTimestamp items → o.hasDates)
    (ordered : Value.OrderedItems items) :
    Gives (convertItems levels refs) o
      (verdict (Value.depthItems items ≤ levels) (Value.truncateAll items)) := by
  induction items generalizing refs o with
  | nil =>
    obtain rfl : refs = [] := holds
    rw [convertItems]
    exact .pure calm _
  | cons v items ih =>
    obtain ⟨head, tail⟩ := List.forall_mem_cons.1 parts
    obtain ⟨r, rest, rfl, first, others⟩ := holds
    have dates' : v.hasTimestamp ∨ Value.anyTimestamp items → o.hasDates := by
      simpa [Value.anyTimestamp] using dates
    have depth : Value.depthItems (v :: items) ≤ levels ↔
        v.depth < levels ∧ Value.depthItems items ≤ levels := by
      rw [Value.depthItems]
      omega
    rw [convertItems]
    refine (head levels r o calm first (dates' ∘ .inl) ordered.1).bind ?_
    intro o₁ steady calm₁
    by_cases fits : v.depth < levels
    · rw [verdict, if_pos fits]
      have all : Value.depthItems (v :: items) ≤ levels ↔ Value.depthItems items ≤ levels := by
        simp only [depth, fits, true_and]
      have rest := ih tail calm₁ (steady.interpreter ▸ others)
        (fun found => steady.hasDates (dates' (.inr found))) ordered.2
      refine rest.bind ?_
      intro o₂ _ calm₂
      rw [map_verdict, Value.truncateAll]
      simp only [verdict, all]
      exact .pure calm₂ _
    · -- The first item that is too deep ends the reading.
      have tooDeep' : ¬ Value.depthItems (v :: items) ≤ levels := fun all => fits (depth.1 all).1
      rw [verdict, if_neg fits, verdict, if_neg tooDeep']
      exact .pure calm₁ _

theorem gives_textOf {o : Owner} (calm : o.pending = none) (s : String) :
    Gives (textOf (.ofString s)) o (.ok s) := by
  unfold textOf
  rw [CodePoints.toString?_ofString]
  exact .pure calm _

theorem gives_convertEntries {entries : List (String × Value)}
    (parts : ∀ e ∈ entries, ReadsBack e.2) (levels : Nat) {refs : List (Ref × Ref)} {o : Owner}
    (calm : o.pending = none) (holds : o.interpreter.heap.HoldsEntries entries refs)
    (dates : Value.anyTimestampEntries entries → o.hasDates)
    (ordered : Value.OrderedEntries entries) (made : ValueMap)
    (ascending : Entries.Ascending (made ++ Value.truncateEntries entries)) :
    Gives (convertEntries levels made refs) o
      (verdict (Value.depthEntries entries ≤ levels) (made ++ Value.truncateEntries entries)) := by
  induction entries generalizing refs o made with
  | nil =>
    obtain rfl : refs = [] := holds
    rw [convertEntries, Value.truncateEntries, List.append_nil]
    exact .pure calm _
  | cons e entries ih =>
    obtain ⟨k, v⟩ := e
    obtain ⟨head, tail⟩ := List.forall_mem_cons.1 parts
    obtain ⟨key, r, rest, rfl, named, first, others⟩ := holds
    have dates' : v.hasTimestamp ∨ Value.anyTimestampEntries entries → o.hasDates := by
      simpa [Value.anyTimestampEntries] using dates
    have depth : Value.depthEntries ((k, v) :: entries) ≤ levels ↔
        v.depth < levels ∧ Value.depthEntries entries ≤ levels := by
      rw [Value.depthEntries]
      omega
    rw [convertEntries, Gives, ends_bind, ends_heap, named.object]
    refine Gives.bind (gives_textOf calm k) ?_
    intro o₁ steady calm₁
    have value := head levels r o₁ calm₁ (steady.interpreter ▸ first)
      (fun found => steady.hasDates (dates' (.inl found))) ordered.1
    refine value.bind ?_
    intro o₂ steady' calm₂
    have steady₂ := steady.trans steady'
    by_cases fits : v.depth < levels
    · -- Keys ascend, so each is bound at the end.
      have bound : made.insert k v.truncate = made ++ [(k, v.truncate)] :=
        Entries.insert_of_ascending ascending
      have all : Value.depthEntries ((k, v) :: entries) ≤ levels ↔
          Value.depthEntries entries ≤ levels := by
        simp only [depth, fits, true_and]
      have entries' : made ++ Value.truncateEntries ((k, v) :: entries) =
          (made ++ [(k, v.truncate)]) ++ Value.truncateEntries entries := by
        rw [Value.truncateEntries, List.append_assoc, List.singleton_append]
      rw [entries'] at ascending ⊢
      simp only [verdict, if_pos fits, all, bound]
      exact ih tail calm₂ (steady₂.interpreter ▸ others)
        (fun found => steady₂.hasDates (dates' (.inr found))) ordered.2 _ ascending
    · have tooDeep' : ¬ Value.depthEntries ((k, v) :: entries) ≤ levels :=
        fun all => fits (depth.1 all).1
      rw [verdict, if_neg fits, verdict, if_neg tooDeep']
      exact .pure calm₂ _

/-- To read the objects of a value is to read their outermost shape. -/
theorem readsBack_of_shape {v : Value}
    (read : ∀ (levels : Nat) (r : Ref) (o : Owner), o.pending = none →
      o.interpreter.heap.Holds v r → (v.hasTimestamp → o.hasDates) → v.Ordered →
        Gives (readShape levels (o.interpreter.heap.shape r)) o
          (verdict (v.depth < levels + 1) v.truncate)) : ReadsBack v := by
  intro levels r o calm holds dates ordered
  cases levels with
  | zero =>
    rw [convert, verdict, if_neg (Nat.not_lt_zero _)]
    exact .pure calm _
  | succ levels =>
    rw [Gives, Ends, run_convert_succ]
    exact read levels r o calm holds dates ordered

theorem gives_integerOf {o : Owner} (calm : o.pending = none) (i : Int64) :
    Gives (integerOf i.toInt) o (.ok i) := by
  have range : isInt64 i.toInt := by
    have low := Int64.le_toInt i
    have high := Int64.toInt_lt i
    simp [isInt64]
    omega
  unfold integerOf
  rw [if_neg (not_not_intro range), Gives, ends_bind, ends_get, calm, if_neg (by simp),
    Int64.ofInt_toInt]
  exact Gives.pure calm _

/-- Reading the objects of a value gives the value, cut to microseconds, if it is not too deep. -/
theorem gives_convert (v : Value) : ReadsBack v := by
  induction v using Value.induction with
  | null =>
    refine readsBack_of_shape ?_
    intro levels r o calm holds _ _
    rw [Heap.shape, holds.object]
    exact .bind_prepareDates calm fun _ _ _ _ calm₁ => .pure calm₁ _
  | bool b | float f | blob bytes =>
    refine readsBack_of_shape ?_
    intro levels r o calm holds _ _
    rw [Heap.shape, holds.object]
    exact .pure calm _
  | int i =>
    refine readsBack_of_shape ?_
    intro levels r o calm holds _ _
    rw [Heap.shape, holds.object]
    exact (gives_integerOf calm i).bind fun _ _ calm₁ => .pure calm₁ _
  | string s =>
    refine readsBack_of_shape ?_
    intro levels r o calm holds _ _
    rw [Heap.shape, holds.object]
    exact (gives_textOf calm s).bind fun _ _ calm₁ => .pure calm₁ _
  | timestamp t =>
    refine readsBack_of_shape ?_
    intro levels r o calm holds dates _
    rw [Heap.shape, holds.object]
    refine .bind_prepareDates calm ?_
    intro ready o₁ found steady calm₁
    rw [found (dates rfl)]
    have read : Gives (instantOf (.ofTimestamp t)) o₁ (.ok t.truncate) := by
      unfold instantOf
      rw [if_neg (not_not_intro (DateTime.isValid_ofTimestamp t)), ← DateTime.wallClock_ofTimestamp]
      exact .pure calm₁ _
    exact read.bind fun _ _ calm₂ => .pure calm₂ _
  | array items parts =>
    refine readsBack_of_shape ?_
    intro levels r o calm holds dates ordered
    obtain ⟨refs, list, all⟩ := holds
    rw [Heap.shape, list.object]
    refine .bind_prepareDates calm ?_
    intro _ o₁ _ steady calm₁
    refine (gives_convertItems parts levels calm₁ (steady.interpreter ▸ all)
      (fun found => steady.hasDates (dates found)) ordered).bind fun o₂ _ calm₂ => ?_
    rw [map_verdict]
    simp only [verdict, Value.depth, Nat.lt_succ_iff]
    exact .pure calm₂ _
  | map entries parts =>
    refine readsBack_of_shape ?_
    intro levels r o calm holds dates ordered
    obtain ⟨refs, dict, all⟩ := holds
    rw [Heap.shape, dict.object]
    refine .bind_prepareDates calm ?_
    intro _ o₁ _ steady calm₁
    have ascending : Entries.Ascending ([] ++ Value.truncateEntries entries) := by
      rw [List.nil_append, Entries.Ascending, Value.keys_truncateEntries]
      exact ordered.1
    refine (gives_convertEntries parts levels calm₁ (steady.interpreter ▸ all)
      (fun found => steady.hasDates (dates found)) ordered.2 [] ascending).bind fun o₂ _ calm₂ => ?_
    rw [map_verdict]
    simp only [verdict, Value.depth, Nat.lt_succ_iff]
    exact .pure calm₂ _

/-! ## There and back -/

/-- Objects are made of a value that the calendar has the years of, and nothing is warned of. -/
theorem ends_toObject {v : Value} {o : Owner} (calm : o.pending = none)
    (singles : o.interpreter.heap.HasSingletons) (distinct : v.Distinct) (dates : v.hasTimestamp → o.hasDates)
    (possible : v.InCalendar) :
    Ends (toObject v) o
      (fun result o₁ => ∃ r, result = .ok r ∧ o₁.interpreter.heap.Holds v r ∧ o₁.pending = none ∧
        (v.hasTimestamp → o₁.hasDates))
      fun _ => False := by
  have result := Heap.place_yields v o.interpreter.heap {} singles distinct
  generalize placed : o.interpreter.heap.place {} v = made at result
  rcases made with ⟨e | r, h⟩
  · exact absurd possible (result.1.impossible .default).1
  · obtain ⟨-, holds, -⟩ := result
    have warns (e : Raised) (failed : (o.interpreter.heap.place {} v).1 = .error e) :
        o.Warns fun _ => False := by
      rw [placed] at failed
      cases failed
    refine (ends_placing calm v.hasTimestamp (·.place {} v) warns).imp ?_
    intro result o₁ made
    rw [if_pos dates, placed] at made
    obtain ⟨rfl, steady, calm₁⟩ := made
    refine ⟨r, rfl, ?_, calm₁, fun found => steady.hasDates (dates found)⟩
    rw [steady.interpreter]
    exact holds

/-- A value is made objects of unless it has an instant in a year that the calendar lacks; then an
exception is reported and no object is left.  What is read from the objects is the value, cut to
microseconds, or an error if a part of the value lies deeper than `maxDepth`. -/
theorem fromObject_toObject (v : Value) (ordered : v.Ordered) (o : Owner) (calm : o.pending = none)
    (singles : o.interpreter.heap.HasSingletons) :
    ((v.hasTimestamp → o.hasDates) → v.InCalendar →
      Ends (toObject v) o
        (fun result o₁ => ∃ r, result = .ok r ∧
          Gives (fromObject r) o₁ (if v.depth ≤ maxDepth then .ok v.truncate else .error tooDeep))
        fun _ => False) ∧
    (¬ v.InCalendar →
      Ends (toObject v) o
        (fun result o₁ => (∃ report, result = .error (.exception report)) ∧ o₁.pending = none ∧
          o.interpreter.heap.Undone o₁.interpreter.heap)
        o.Panics) ∧
    v.truncate.truncate = v.truncate ∧
    (∀ t : Timestamp, t.truncate = ⟨t.seconds, min (t.nanos / 1000) 999999 * 1000⟩) ∧
    ∀ s t : Timestamp, s.le t → s.truncate.le t.truncate := by
  refine ⟨fun dates possible => ?_, fun impossible => ?_, v.truncate_truncate, fun _ => rfl,
    fun _ _ before => before.truncate⟩
  · refine (ends_toObject calm singles ordered.distinct dates possible).imp ?_
    rintro result o₁ ⟨r, rfl, holds, calm₁, dates₁⟩
    have read := gives_convert v (maxDepth + 1) r o₁ calm₁ holds dates₁ ordered
    simp only [verdict, Nat.lt_succ_iff] at read
    exact ⟨r, rfl, read⟩
  · have outcome := Heap.place_yields v o.interpreter.heap {} singles ordered.distinct
    generalize placed : o.interpreter.heap.place {} v = made at outcome
    rcases made with ⟨e | r, h⟩
    · obtain ⟨hindrance, undone⟩ := outcome
      obtain ⟨-, year, rfl⟩ := hindrance.impossible .default
      refine (ends_placing calm v.hasTimestamp (·.place {} v) fun _ _ => o.warns_panics).imp ?_
      intro result o₁ made
      rw [placed] at made
      split at made
      · obtain ⟨rfl, steady, calm₁⟩ := made
        refine ⟨⟨o.reportOf (DateTime.noYear year), rfl⟩, calm₁, ?_⟩
        rw [steady.interpreter]
        exact undone
      · obtain ⟨⟨why, rfl⟩, steady, calm₁⟩ := made
        refine ⟨⟨_, rfl⟩, calm₁, ?_⟩
        rw [steady.interpreter]
        exact .refl _
    · exact absurd outcome.1 impossible

/-- A leap second before the epoch is cut to the last microsecond of the second before it. -/
theorem fromObject_toObject_leapSecond :
    (Value.array [.timestamp ⟨-1, 1999999999⟩]).Ordered ∧ ({} : Owner).pending = none ∧
      ({} : Owner).interpreter.heap.HasSingletons ∧
      Ends (toObject (.array [.timestamp ⟨-1, 1999999999⟩])) {}
        (fun result o₁ => ∃ r, result = .ok r ∧
          Gives (fromObject r) o₁ (.ok (.array [.timestamp ⟨-1, 999999000⟩])))
        fun _ => False := by
  have ordered : (Value.array [.timestamp ⟨-1, 1999999999⟩]).Ordered := ⟨trivial, trivial⟩
  have possible : (Value.array [.timestamp ⟨-1, 1999999999⟩]).InCalendar := by
    intro t member
    rw [List.mem_singleton.1 member]
    decide
  obtain ⟨read, -⟩ := fromObject_toObject _ ordered {} rfl Heap.hasSingletons_initial
  exact ⟨ordered, rfl, Heap.hasSingletons_initial, read (fun _ => rfl) possible⟩

end Job

end InterpreterHost
