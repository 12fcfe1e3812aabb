import InterpreterHost.Call.Module
import InterpreterHost.Marshal.Slot
import InterpreterHost.Proofs.Marshal.Acceptance
import InterpreterHost.Proofs.Marshal.Making

/-!
# What is left pending

Whoever converts a value, puts it into a container, looks up an attribute, calls or imports something
leaves no exception behind, unless memory ran out.  Reading an object is different: if a time zone
says that memory ran out, the reader goes on and leaves that exception.

## Main definitions

* `Owner.Settled` — no exception is pending, except that memory ran out if that is the result
* `Job.Settles` — a job after which that holds

## Main statements

* `Job.settles_checked`, `Job.settles_checkedCall`, `Job.settles_placing` — what jobs are made of
* `Job.pending_afterwards` — what is pending after the jobs of a call
-/

namespace InterpreterHost

/-- No exception is pending, except that memory ran out if that is the result. -/
structure Owner.Settled (result : Except InterpreterError α) (o : Owner) : Prop where
  calm : result ≠ .error .noMemory → o.pending = none
  exhausted : result = .error .noMemory →
    ∃ e, o.pending = some e ∧ e.thrown.exceptionClass.isMemoryError

namespace Owner.Settled

variable {o o' : Owner}

theorem of_none {result : Except InterpreterError α} (calm : o.pending = none)
    (other : result ≠ .error .noMemory) : o.Settled result :=
  ⟨fun _ => calm, fun exhausted => absurd exhausted other⟩

theorem ok (calm : o.pending = none) (a : α) : o.Settled (.ok a) := .of_none calm nofun

/-- The exception that was pending is settled once it was taken over. -/
theorem of_fetched {e : Raised}
    (left : o'.pending = if e.thrown.exceptionClass.isMemoryError then some e else none) :
    o'.Settled (.error (o.errorOf e) : Except InterpreterError α) := by
  cases memory : e.thrown.exceptionClass.isMemoryError with
  | true =>
    have error : o.errorOf e = .noMemory := by rw [Owner.errorOf, if_pos memory]
    rw [error]
    exact ⟨fun other => absurd rfl other, fun _ => ⟨e, by simpa only [memory, if_true] using left, memory⟩⟩
  | false =>
    have error : o.errorOf e = .exception (o.reportOf e) := by simp [Owner.errorOf, memory]
    rw [error]
    refine .of_none (by simpa [memory] using left) ?_
    rintro ⟨⟩

end Owner.Settled

namespace Job

variable {o : Owner}

/-- Whatever comes of the job is settled; only a warning makes it panic. -/
def Settles (code : Job (Except InterpreterError α)) (o : Owner) : Prop :=
  Ends code o (fun result o' => o'.Settled result) o.Panics

/-! ## Code of the interpreter -/

/-- Code of the interpreter leaves what was pending, or the exception that it raises. -/
theorem ends_evaluate (code : Computation α) {E : Panic → Prop} :
    Ends (evaluate code) o
      (fun result o' => o'.panicOnWarning = o.panicOnWarning ∧
        if result.isSome then o'.pending = o.pending else ∃ e, o'.pending = some e) E := by
  unfold evaluate
  rw [ends_bind, ends_get]
  rcases code.run o.interpreter with ⟨result, interpreter⟩
  cases result with
  | ok a => exact ⟨rfl, rfl⟩
  | error e => exact ⟨rfl, e, rfl⟩

theorem ends_fetch_settled (α : Type) {e : Raised} {E : Panic → Prop} (warns : o.Warns E)
    (pending : o.pending = some e) :
    Ends fetch o (fun error o' => o'.Settled (.error error : Except InterpreterError α)) E := by
  refine (ends_fetch warns pending).imp ?_
  rintro error o' ⟨rfl, -, left⟩
  exact .of_fetched left

theorem settles_checked (calm : o.pending = none) (code : Computation α) :
    Settles (checked code) o := by
  unfold Settles checked
  rw [ends_bind]
  refine (ends_evaluate code).imp ?_
  rintro result o₁ ⟨panics, pending⟩
  cases result with
  | some a => exact .ok (Eq.trans pending calm) a
  | none =>
    obtain ⟨e, pending⟩ := pending
    have warns : o₁.Warns o.Panics := fun _ panics' => panics.symm.trans panics'
    rw [ends_bind]
    exact ends_fetch_settled α warns pending

theorem settles_checkedCall (calm : o.pending = none) (code : Computation Ref) :
    Settles (checkedCall code) o := by
  unfold Settles checkedCall evaluateCall
  -- A result is refused only if an exception was pending before the call.
  rw [ends_bind, ends_bind, ends_get, ends_bind, calm]
  refine (ends_evaluate code).imp ?_
  rintro result o₁ ⟨panics, pending⟩
  cases result with
  | some r => exact .ok (Eq.trans pending calm) r
  | none =>
    obtain ⟨e, pending⟩ := pending
    have warns : o₁.Warns o.Panics := fun _ panics' => panics.symm.trans panics'
    dsimp only
    rw [ends_pure, ends_bind]
    exact ends_fetch_settled Ref warns pending

/-! ## Making objects -/

theorem settles_placing (calm : o.pending = none) (needsDates : Bool)
    (make : Heap → Except Raised Ref × Heap) : Settles (placing needsDates make) o := by
  refine (ends_placing calm needsDates make fun _ _ => o.warns_panics).imp ?_
  intro result o' made
  split at made
  · obtain ⟨rfl, -, left⟩ := made
    generalize (make o.interpreter.heap).1 = made at left
    cases made with
    | ok r => exact .ok left r
    | error e => exact .of_fetched left
  · obtain ⟨⟨why, rfl⟩, -, calm'⟩ := made
    refine .of_none calm' ?_
    rintro ⟨⟩

/-! ## Jobs of a call -/

/-- Nothing is pending after a conversion or a part of a call, unless memory ran out and that is the
result.  After an object was read, what is pending is what a time zone left that was asked before. -/
theorem pending_afterwards (o : Owner) (calm : o.pending = none) :
    (∀ r, Ends (fromObject r) o
      (fun result o' => match result with
        | .ok _ =>
          o'.Pends ((lastZone (o.interpreter.heap.visits (maxDepth + 1) r)).any Zone.exhausts)
        | .error error => ∃ before v after f,
          o.interpreter.heap.visits (maxDepth + 1) r = before ++ v :: after ∧
            o.Passes before ∧ v.offence o before = some f ∧ error = f.error o ∧
            o'.Pends ((lastZone before).any Zone.exhausts && f.isSilent))
      o.Panics) ∧
    (∀ v memory, Settles (toObject v memory) o) ∧ (∀ args memory, Settles (toArguments args memory) o) ∧
    (∀ named memory, Settles (toNamed named memory) o) ∧
    (∀ slot container item memory, Settles (insert slot container item memory) o) ∧
    (∀ r name, Settles (getAttribute r name) o) ∧
    (∀ callable args named, Settles (Call.withObjects callable args named) o) ∧
    ∀ name, Settles (importModule name) o := by
  have makes (v : Value) (memory : Memory) : Settles (toObject v memory) o :=
    settles_placing calm v.hasTimestamp _
  refine ⟨fun r => ?_, makes, fun args memory => ?_, fun named => makes (.map named),
    fun slot container item memory => settles_checked calm _, fun r name => ?_,
    fun callable args named => ?_, fun name => ?_⟩
  · refine (ends_convert (Owner.reader_fits calm) o.warns_panics (maxDepth + 1) r).imp ?_
    intro result o' ⟨steady, verdict, pends, _⟩
    cases ended : (o.reader.read (o.interpreter.heap.visits (maxDepth + 1) r)).1 with
    | none =>
      obtain ⟨v, rfl⟩ : ∃ v, result = .ok v := by simpa only [ended] using verdict
      rwa [Reader.exhausted_read ended] at pends
    | some f =>
      obtain rfl : result = .error (f.error o) := by simpa only [ended] using verdict
      obtain ⟨before, v, after, split, passes, offence, left⟩ := Reader.exists_offence ended
      exact ⟨before, v, after, f, split, passes, offence, rfl, left ▸ pends⟩
  · exact settles_placing calm (Value.anyTimestamp args) _
  · unfold Settles getAttribute
    rw [ends_bind, ends_get]
    exact settles_checked calm _
  · unfold Settles Call.withObjects
    rw [ends_bind, ends_get]
    exact settles_checkedCall calm _
  · unfold Settles importModule
    rw [ends_bind, ends_get]
    exact settles_checked calm _

/-- The first jobs of an owner settle what they start. -/
theorem pending_afterwards_start :
    ({} : Owner).pending = none ∧
      (toObject (.array [.int (-1)])).Settles {} ∧ (importModule "math").Settles {} := by
  obtain ⟨-, makes, -, -, -, -, -, imports⟩ := pending_afterwards {} rfl
  exact ⟨rfl, makes _ _, imports _⟩

/-- A time zone that runs out of memory: the date is read, its exception stays pending and is taken
for that of the number -1 after it. -/
theorem pending_exhausted :
    let o := holding [.datetime ⟨⟨2000, 1, 1⟩, 0, 0, 0, 0, some .exhausted, false⟩, .int (-1), .tuple [3, 4]]
    o.pending = none ∧ (∃ v, ((fromObject 3).run o).1 = .ok (.ok v)) ∧
      ((fromObject 3).run o).2.pending.isSome ∧
      ((fromObject 5).run o).1 = .ok (.error (.interpreter .noMemory)) := by
  refine ⟨rfl, ⟨.timestamp ⟨946684800, 0⟩, ?_⟩, ?_, ?_⟩
  · cbv
  · cbv
  · cbv

end Job

end InterpreterHost
