import InterpreterHost.Marshal.ToObject
import InterpreterHost.Proofs.Marshal.Shape
import InterpreterHost.Proofs.Owner.Blind

/-!
# Making objects

A job that makes objects for values does what `Heap.place` and its like do with the heap, and reports what they
raise.

## Main definitions

* `Job.Made` — what was made, or the report of why it could not be

## Main statements

* `Job.ends_placing` — a job that makes objects
-/

namespace InterpreterHost

open Owner (Steady)

theorem Owner.Steady.withHeap {o o' : Owner} (steady : Steady o o') (h : Heap) :
    Steady (o.withHeap h) (o'.withHeap h) where
  interpreter := by simp only [Owner.withHeap, steady.interpreter]
  panicOnWarning := steady.panicOnWarning
  formatter? := steady.formatter?
  findsDates := steady.findsDates
  hasDates := steady.hasDates

namespace Job

variable {o : Owner} {E : Panic → Prop}

/-- What stays pending once code has ended and its exception was taken over: that memory ran out. -/
def leftPending : Except Raised α → Option Raised
  | .ok _ => none
  | .error e => if e.thrown.exceptionClass.isMemoryError then some e else none

/-- What was made, or the report of why it could not be. -/
def Made (o : Owner) (made : Except Raised Ref × Heap) (result : Except InterpreterError Ref)
    (o' : Owner) : Prop :=
  result = made.1.mapError o.errorOf ∧ Steady (o.withHeap made.2) o' ∧ o'.pending = leftPending made.1

/-- What makes objects, once the dates were looked for. -/
def making (make : Heap → Except Raised Ref × Heap) :
    Except String Unit → Job (Except InterpreterError Ref)
  | .error why => return .error (.exception (.ofMain s!"ImportError: {why}"))
  | .ok () => do
    let o ← get
    let (result, heap) := make o.interpreter.heap
    set (o.withHeap heap)
    match result with
    | .ok a => return .ok a
    | .error e =>
      modify fun o => { o with pending := some e }
      return .error (← fetch)

theorem placing_eq (needsDates : Bool) (make : Heap → Except Raised Ref × Heap) :
    placing needsDates make = (if needsDates then prepareDates else pure (.ok ())) >>= making make := by
  unfold placing
  cases needsDates with
  | true => rfl
  | false => rfl

/-- Objects are made, unless they need dates and there are none. -/
theorem ends_placing (calm : o.pending = none) (needsDates : Bool)
    (make : Heap → Except Raised Ref × Heap)
    (warns : ∀ e, (make o.interpreter.heap).1 = .error e → o.Warns E) :
    Ends (placing needsDates make) o
      (fun result o' =>
        if needsDates → o.hasDates then Made o (make o.interpreter.heap) result o'
        else (∃ why : String, result = .error (.exception (.ofMain s!"ImportError: {why}"))) ∧
          Steady o o' ∧ o'.pending = none) E := by
  -- What is looked for first leaves the owner as it was and nothing pending.
  have ready : Ends (if needsDates then prepareDates else pure (.ok ())) o
      (fun ready o' => (ready = .ok () ↔ (needsDates → o.hasDates)) ∧ Steady o o' ∧ o'.pending = none)
      E := by
    split
    · next needed =>
      refine (ends_prepareDates_calm calm).imp ?_
      rintro ready o₁ ⟨dates, steady, calm₁⟩
      exact ⟨by simpa [needed] using dates, steady, calm₁⟩
    · next idle => exact ends_pure.2 ⟨by simp [idle], .refl o, calm⟩
  rw [placing_eq, ends_bind]
  refine ready.imp ?_
  rintro ready o₁ ⟨dates, steady, calm₁⟩
  cases ready with
  | error why =>
    have missing : ¬ (needsDates = true → o.hasDates = true) := fun present => nomatch dates.2 present
    simp only [if_neg missing]
    exact ⟨⟨why, rfl⟩, steady, calm₁⟩
  | ok _ =>
    simp only [if_pos (dates.1 rfl)]
    unfold making
    rw [ends_bind, ends_get, steady.interpreter]
    revert warns
    rcases make o.interpreter.heap with ⟨made, h⟩
    intro warns
    rw [ends_bind, ends_set]
    have changed : Steady (o.withHeap h) (o₁.withHeap h) := steady.withHeap h
    cases made with
    | ok r => exact ⟨rfl, changed, calm₁⟩
    | error e =>
      dsimp only
      rw [ends_bind, ends_modify, ends_bind]
      have raised := changed.trans (.setPending _ (some e))
      have warns' : (o.withHeap h).Warns E := warns e rfl
      refine (ends_fetch (raised.warns warns') rfl).imp ?_
      rintro error o₂ ⟨equal, steady₂, left⟩
      have same : error = o.errorOf e := equal.trans (raised.errorOf e)
      subst same
      exact ⟨rfl, raised.trans steady₂, left⟩

end Job

end InterpreterHost
