import InterpreterHost.Proofs.Marshal.Alike
import InterpreterHost.Proofs.Marshal.Course
import Mathlib

/-!
# Which objects can be read

An object can be read if it and its parts are of the right kinds and lie less than `maxDepth` deep,
with one exception: after a date whose time zone said that memory ran out, the number -1 is not read.

## Main definitions

* `Visit.isFine` — the visit would not end the reading if it were the only one
* `lastZone` — the time zone that was asked last
* `Visit.offence` — why reading ends at a visit that comes after others
* `Owner.Passes` — reading ends at none of its visits

## Main statements

* `Heap.convertible_iff` — an object is convertible if every visit is fine
* `Job.fromObject_accepts` — which objects can be read, which errors the others give, and which
  entries have no influence on that
-/

namespace InterpreterHost

/-! ## Visits by themselves -/

/-- The visit would not end the reading if it were the only one. -/
def Visit.isFine : Visit → Bool
  | .known | .late => true
  | .int i => isInt64 i
  | .text t => t.toString?.isSome
  | .clock t => t.isValid
  | .foreign _ | .tooDeep => false

namespace Heap

variable (h : Heap) (levels : Nat)

theorem convertibleItems_iff (items : List Ref)
    (parts : ∀ r, h.convertible levels r ↔ ∀ v ∈ h.visits levels r, v.isFine) :
    h.convertibleItems levels items ↔ ∀ v ∈ items.flatMap (h.visits levels), v.isFine := by
  induction items with
  | nil => simp [convertibleItems]
  | cons r items ih =>
    simp only [convertibleItems, Bool.and_eq_true, parts, ih, List.flatMap_cons, List.forall_mem_append]

theorem convertibleEntries_iff (entries : List (Ref × Ref))
    (parts : ∀ r, h.convertible levels r ↔ ∀ v ∈ h.visits levels r, v.isFine) :
    h.convertibleEntries levels entries ↔
      ∀ v ∈ (h.textEntries entries).flatMap (fun e => .text e.1 :: h.visits levels e.2), v.isFine := by
  induction entries with
  | nil => simp [convertibleEntries, textEntries]
  | cons entry entries ih =>
    obtain ⟨k, r⟩ := entry
    rw [convertibleEntries, Bool.and_eq_true, ih, textEntries_cons]
    cases h.object k with
    | str t =>
      dsimp only
      rw [List.flatMap_cons, List.forall_mem_append, List.forall_mem_cons]
      simp only [Bool.and_eq_true, parts, Visit.isFine]
    | _ => exact and_iff_right rfl

/-- An object is convertible if every visit is fine. -/
theorem convertible_iff (r : Ref) :
    h.convertible levels r ↔ ∀ v ∈ h.visits levels r, v.isFine := by
  induction levels generalizing r with
  | zero => simp [convertible, visits, Visit.isFine]
  | succ levels ih =>
    have items := fun items => h.convertibleItems_iff levels items ih
    have entries := fun entries => h.convertibleEntries_iff levels entries ih
    unfold convertible visits shape
    cases h.object r with
    | list parts | tuple parts =>
      simp only [items, List.forall_mem_cons, Visit.isFine, true_and]
    | dict parts => simp only [entries, List.forall_mem_cons, Visit.isFine, true_and]
    | _ => simp [Visit.isFine]

end Heap

/-! ## Visits after others -/

/-- The time zone that a visit asks. -/
def Visit.zone? : Visit → Option Zone
  | .clock t => t.zone
  | _ => none

/-- The time zone that was asked last. -/
def lastZone (visits : List Visit) : Option Zone := visits.reverse.findSome? Visit.zone?

theorem lastZone_cons (v : Visit) (visits : List Visit) :
    lastZone (v :: visits) = (lastZone visits).or v.zone? := by
  simp [lastZone, List.findSome?_append]

/-- A date is recognised after those visits: dates can be read, be it that they are found only when a
container is looked at. -/
def Owner.recognizes (o : Owner) (before : List Visit) : Bool :=
  o.hasDates || (o.findsDates && before.contains .late)

/-- Why reading ends at a visit that comes after others. -/
def Visit.offence (o : Owner) (before : List Visit) : Visit → Option Fault
  | .known | .late => none
  | .int i =>
    if ¬ isInt64 i then some .overflow
    else if i = -1 ∧ (lastZone before).any Zone.exhausts then some .exhausted
    else none
  | .text t => if t.toString?.isSome then none else some (.unencodable t)
  | .clock t =>
    if ¬ o.recognizes before then some (.unsupported "datetime.datetime")
    else if ¬ t.isValid then some .invalidDate
    else none
  | .foreign typeName => some (.unsupported typeName)
  | .tooDeep => some .tooDeep

/-- Reading ends at none of the visits. -/
def Owner.Passes (o : Owner) (visits : List Visit) : Prop :=
  ∀ before v after, visits = before ++ v :: after → v.offence o before = none

/-- The reader that starts with an owner for whom no exception is pending. -/
def Owner.reader (o : Owner) : Reader := ⟨o.hasDates, o.findsDates, false⟩

theorem Owner.reader_fits {o : Owner} (calm : o.pending = none) : o.reader.Fits o :=
  ⟨rfl, rfl, calm, nofun⟩

namespace Reader

/-- The state after visits at which reading does not end. -/
theorem read_of_none {s : Reader} (finds : s.hasDates → s.findsDates) {visits : List Visit}
    (passes : (s.read visits).1 = none) :
    (s.read visits).2 =
      { hasDates := s.hasDates || (s.findsDates && visits.contains .late)
        findsDates := s.findsDates
        exhausted := match lastZone visits with
          | some zone => zone.exhausts
          | none => s.exhausted } := by
  induction visits generalizing s with
  | nil => simp [read, lastZone]
  | cons v visits ih =>
    cases fault : s.fault? v with
    | some f => simp [read, fault] at passes
    | none =>
      simp only [read, fault] at passes ⊢
      have finds' : (s.next v).hasDates → (s.next v).findsDates := by
        cases v with
        | late | clock _ => exact id
        | _ => exact finds
      rw [ih finds' passes, lastZone_cons]
      -- Only a container and a date change the state.
      cases v with
      | late =>
        have looked : (s.hasDates || s.findsDates) = s.findsDates := by simpa using finds
        have again : (s.findsDates || (s.findsDates && visits.contains .late)) = s.findsDates := by
          cases s.findsDates <;> rfl
        have contains : (Visit.late :: visits).contains .late = true := rfl
        simp only [next, Visit.zone?, contains, Bool.and_true, looked, again, Option.or_none]
      | clock t =>
        have hasDates : s.hasDates := by
          cases hasDates : s.hasDates with
          | false => simp [fault?, hasDates] at fault
          | true => rfl
        cases lastZone visits <;> cases zone : t.zone <;>
          simp [next, Visit.zone?, hasDates, finds hasDates, zone]
      | _ => simp [next, Visit.zone?]

theorem exhausted_read {o : Owner} {visits : List Visit} (passes : (o.reader.read visits).1 = none) :
    (o.reader.read visits).2.exhausted = (lastZone visits).any Zone.exhausts := by
  rw [read_of_none Owner.findsDates_of_hasDates passes]
  cases lastZone visits <;> rfl

theorem fault?_read {o : Owner} {before : List Visit} (passes : (o.reader.read before).1 = none)
    (v : Visit) : (o.reader.read before).2.fault? v = v.offence o before := by
  have exhausted := exhausted_read passes
  have dates : (o.reader.read before).2.hasDates = o.recognizes before := by
    rw [read_of_none Owner.findsDates_of_hasDates passes]
    rfl
  cases v with
  | int i => simp only [fault?, Visit.offence, exhausted]
  | clock t => simp only [fault?, Visit.offence, dates]
  | _ => rfl

/-- What comes before the visit at which reading ends. -/
theorem exists_split {s : Reader} {visits : List Visit} {f : Fault}
    (ends : (s.read visits).1 = some f) :
    ∃ before v after, visits = before ++ v :: after ∧
      (s.read before).1 = none ∧ (s.read before).2.fault? v = some f := by
  induction visits generalizing s with
  | nil => cases ends
  | cons v visits ih =>
    cases fault : s.fault? v with
    | some f' =>
      simp only [read, fault] at ends
      exact ⟨[], v, visits, rfl, rfl, by rw [read, fault, ends]⟩
    | none =>
      simp only [read, fault] at ends
      obtain ⟨before, v', after, rfl, passes, ends⟩ := ih ends
      refine ⟨v :: before, v', after, rfl, ?_, ?_⟩
      · simpa only [read, fault] using passes
      · simpa only [read, fault] using ends

/-- Reading that does not end at all does not end at any of its visits. -/
theorem fault?_of_none {s : Reader} {before after : List Visit} {v : Visit}
    (passes : (s.read (before ++ v :: after)).1 = none) :
    (s.read before).1 = none ∧ (s.read before).2.fault? v = none := by
  rw [read_append] at passes
  rcases read : s.read before with ⟨none | f, t⟩
  · rw [read] at passes
    refine ⟨rfl, ?_⟩
    cases fault : t.fault? v with
    | none => rfl
    | some f => simp [Reader.read, fault] at passes
  · simp [read] at passes

/-- Reading ends at none of the visits if it ends at none of them for its own reasons. -/
theorem read_eq_none_iff {o : Owner} {visits : List Visit} :
    (o.reader.read visits).1 = none ↔ o.Passes visits := by
  constructor
  · rintro passes before v after rfl
    obtain ⟨passes', fine⟩ := fault?_of_none passes
    rwa [fault?_read passes'] at fine
  · intro passes
    cases ends : (o.reader.read visits).1 with
    | none => rfl
    | some f =>
      obtain ⟨before, v, after, split, passes', fault⟩ := exists_split ends
      rw [fault?_read passes', passes before v after split] at fault
      cases fault

/-- Reading ends at the first visit at which it has to, and leaves what was pending there. -/
theorem exists_offence {o : Owner} {visits : List Visit} {f : Fault}
    (ends : (o.reader.read visits).1 = some f) :
    ∃ before v after, visits = before ++ v :: after ∧ o.Passes before ∧ v.offence o before = some f ∧
      (o.reader.read visits).2.exhausted = ((lastZone before).any Zone.exhausts && f.isSilent) := by
  obtain ⟨before, v, after, split, passes, fault⟩ := exists_split ends
  have offence : v.offence o before = some f := by rw [← fault?_read passes, fault]
  refine ⟨before, v, after, split, read_eq_none_iff.1 passes, offence, ?_⟩
  rw [← exhausted_read passes, split, read_append]
  rcases read : o.reader.read before with ⟨ended, t⟩
  simp only [read] at passes fault
  simp only [passes, Reader.read, fault]

end Reader

/-- Reading is not ended by what was visited before, but for what is wrong with a visit by itself. -/
def Owner.Undisturbed (o : Owner) (visits : List Visit) : Prop :=
  ∀ before v after, visits = before ++ v :: after →
    (v = .int (-1) → ¬ (lastZone before).any Zone.exhausts) ∧ (∀ t, v = .clock t → o.recognizes before)

theorem Visit.offence_eq_none_iff {o : Owner} {before : List Visit} {v : Visit} :
    v.offence o before = none ↔ v.isFine ∧
      (v = .int (-1) → ¬ (lastZone before).any Zone.exhausts) ∧ (∀ t, v = .clock t → o.recognizes before) := by
  cases v with
  | int i =>
    by_cases range : isInt64 i
    · simp [offence, isFine, range]
    · simp [offence, isFine, range]
  | clock t =>
    by_cases recognized : o.recognizes before
    · simp [offence, isFine, recognized]
    · simp [offence, recognized]
  | text t => cases text : t.toString? <;> simp [offence, isFine, text]
  | _ => simp [offence, isFine]

theorem Owner.passes_iff {o : Owner} {visits : List Visit} :
    o.Passes visits ↔ (∀ v ∈ visits, v.isFine) ∧ o.Undisturbed visits := by
  constructor
  · intro passes
    refine ⟨fun v member => ?_, fun before v after split => ?_⟩
    · obtain ⟨before, after, split⟩ := List.append_of_mem member
      exact (Visit.offence_eq_none_iff.1 (passes before v after split)).1
    · exact (Visit.offence_eq_none_iff.1 (passes before v after split)).2
  · rintro ⟨fine, undisturbed⟩ before v after rfl
    exact Visit.offence_eq_none_iff.2 ⟨fine v (by simp), undisturbed before v after rfl⟩

/-! ## Reading -/

namespace Job

/-- An owner whose heap holds, besides the objects that there is one of each, the given ones. -/
def holding (objects : List Object) : Owner :=
  { interpreter := { heap := ⟨(Heap.initial.cells.toList ++ objects.map (Cell.mk 1)).toArray⟩ } }

/-- Reading an object takes it exactly if the object is convertible and nothing that was visited before
a part of it gets in the way; otherwise it gives the error of the first part that cannot be read.
Entries of dictionaries whose keys are no texts, in whichever place, change nothing of that. -/
theorem fromObject_accepts (o : Owner) (calm : o.pending = none) (r : Ref) :
    Ends (fromObject r) o
      (fun result _ =>
        ((∃ v, result = .ok v) ↔
          o.interpreter.heap.convertible (maxDepth + 1) r ∧
            o.Undisturbed (o.interpreter.heap.visits (maxDepth + 1) r)) ∧
        ∀ error, result = .error error → ∃ before v after f,
          o.interpreter.heap.visits (maxDepth + 1) r = before ++ v :: after ∧
            o.Passes before ∧ v.offence o before = some f ∧ error = f.error o)
      o.Panics ∧
    ∀ (h : Heap) (R : Ref → Ref → Prop) (r' : Ref), o.interpreter.heap.Alike h R → R r r' →
      (fromObject r').run (o.withHeap h) =
        (((fromObject r).run o).1, ((fromObject r).run o).2.withHeap h) := by
  constructor
  · refine (ends_convert (Owner.reader_fits calm) o.warns_panics (maxDepth + 1) r).imp ?_
    intro result o' read
    have verdict := read.verdict
    rw [Heap.convertible_iff, ← Owner.passes_iff, ← Reader.read_eq_none_iff]
    cases ended : (o.reader.read (o.interpreter.heap.visits (maxDepth + 1) r)).1 with
    | none =>
      obtain ⟨v, rfl⟩ : ∃ v, result = .ok v := by simpa only [ended] using verdict
      refine ⟨⟨fun _ => rfl, fun _ => ⟨v, rfl⟩⟩, ?_⟩
      rintro error ⟨⟩
    | some f =>
      obtain rfl : result = .error (f.error o) := by simpa only [ended] using verdict
      obtain ⟨before, v, after, split, passes, offence, -⟩ := Reader.exists_offence ended
      refine ⟨⟨?_, ?_⟩, ?_⟩
      · rintro ⟨v, ⟨⟩⟩
      · rintro ⟨⟩
      rintro _ ⟨⟩
      exact ⟨before, v, after, f, split, passes, offence, rfl⟩
  · intro h R r' alike related
    exact (mirrors_convert alike (maxDepth + 1) related o rfl).1

/-- A list that contains itself lies too deep in itself. -/
theorem fromObject_itself :
    (holding [.list [3]]).pending = none ∧
      Ends (fromObject 3) (holding [.list [3]]) (fun result _ => ¬ ∃ v, result = .ok v)
        (fun _ => False) := by
  have refused (levels : Nat) : (holding [.list [3]]).interpreter.heap.convertible levels 3 = false := by
    have object : (holding [.list [3]]).interpreter.heap.object 3 = .list [3] := rfl
    induction levels with
    | zero => rw [Heap.convertible]
    | succ levels ih => simp [Heap.convertible, Heap.convertibleItems, object, ih]
  refine ⟨rfl, (fromObject_accepts (holding [.list [3]]) rfl 3).1.mono ?_ ?_⟩
  · rintro result _ ⟨accepts, -⟩ taken
    have accepted := (accepts.1 taken).1
    rw [refused] at accepted
    cases accepted
  · intro p panics
    cases panics

/-- A date whose time zone runs out of memory, and the number -1 after it. -/
theorem fromObject_exhausted :
    let o := holding [.datetime ⟨⟨2000, 1, 1⟩, 0, 0, 0, 0, some .exhausted, false⟩, .int (-1), .list [3, 4]]
    o.interpreter.heap.convertible (maxDepth + 1) 5 = true ∧
      ((fromObject 5).run o).1 = .ok (.error (.interpreter .noMemory)) := by
  constructor
  · cbv
  · cbv

end Job

end InterpreterHost
