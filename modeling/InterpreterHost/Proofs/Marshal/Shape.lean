import InterpreterHost.Marshal.FromObject
import InterpreterHost.Proofs.Owner.Report

/-!
# What an object is to one who reads it

To read an object is to look at its shape and to act on it.  Only the shape matters: of the twenty
kinds of objects a reader tells eight apart, and of a dictionary it sees the entries whose keys are
texts.

## Main definitions

* `Shape`, `Heap.shape` — what an object is to one who reads it
* `Heap.textEntries` — the entries of a dictionary whose keys are texts
* `Job.readShape` — read an object of a shape

## Main statements

* `Job.run_convert_succ` — to read an object is to read its shape
-/

namespace InterpreterHost

/-- What an object is to one who reads it. -/
inductive Shape where
  /-- An object that is a value as it stands. -/
  | known (v : Value)
  | int (i : Int)
  | text (t : CodePoints)
  | clock (t : DateTime)
  | null
  | sequence (items : List Ref)
  | mapping (entries : List (Ref × Ref))
  /-- An object that cannot be read. -/
  | foreign (typeName : String)

namespace Heap

/-- The shape of the object at a place. -/
def shape (h : Heap) (r : Ref) : Shape :=
  match h.object r with
  | .bool b => .known (.bool b)
  | .float f => .known (.float f)
  | .byteArray content | .bytes content => .known (.blob content)
  | .int i => .int i
  | .str t => .text t
  | .datetime t => .clock t
  | .none => .null
  | .list items | .tuple items => .sequence items
  | .dict entries => .mapping entries
  | _ => .foreign (h.typeName r)

/-- The entries whose keys are texts, with those texts. -/
def textEntries (h : Heap) (entries : List (Ref × Ref)) : List (CodePoints × Ref) :=
  entries.filterMap fun e =>
    match h.object e.1 with
    | .str t => some (t, e.2)
    | _ => none

theorem textEntries_cons (h : Heap) (k r : Ref) (entries : List (Ref × Ref)) :
    h.textEntries ((k, r) :: entries) =
      match h.object k with
      | .str t => (t, r) :: h.textEntries entries
      | _ => h.textEntries entries := by
  rw [textEntries, List.filterMap_cons]
  cases h.object k <;> rfl

end Heap

namespace Job

variable {o : Owner} {E : Panic → Prop}

/-- Whether dates can be read is found out without a panic. -/
theorem ends_prepareDates :
    Ends prepareDates o (fun ready o' => (ready = .ok () ↔ o.hasDates) ∧ Owner.Steady o o' ∧
      o'.hasDates = o.findsDates ∧
      (o'.pending = o.pending ∨ o'.pending = none ∧ ¬ o.hasDates)) E := by
  unfold prepareDates
  rw [ends_bind, ends_get]
  by_cases ready : o.datesReady
  · have dates : o.hasDates := by simp [Owner.hasDates, ready]
    simp only [ready, if_true]
    exact ⟨by simp [dates], .refl o, by rw [dates, Owner.findsDates_of_hasDates dates], .inl rfl⟩
  · have dates : o.hasDates = o.formatter?.isSome := by simp [Owner.hasDates, ready]
    simp only [ready, Bool.false_eq_true, if_false, ends_bind]
    refine ends_prepare.imp ?_
    rintro found o' ⟨looked, steady, finds, pending⟩
    refine ⟨?_, steady, finds, ?_⟩
    · rw [dates, ← looked]
      cases found <;> simp [Except.map, Except.toOption]
    · simpa [dates] using pending

/-- Where nothing was pending nothing is. -/
theorem ends_prepareDates_calm (calm : o.pending = none) :
    Ends prepareDates o (fun ready o' => (ready = .ok () ↔ o.hasDates) ∧ Owner.Steady o o' ∧
      o'.pending = none) E := by
  refine ends_prepareDates.imp ?_
  rintro ready o' ⟨dates, steady, -, same | ⟨gone, -⟩⟩
  · exact ⟨dates, steady, same.trans calm⟩
  · exact ⟨dates, steady, gone⟩

/-! ## Reading by shape -/

/-- Read an object of the given shape, with `levels` containers left that may lie around its parts. -/
def readShape (levels : Nat) : Shape → Job (Except CallError Value)
  | .known v => return .ok v
  | .int i => return leaf .int (← integerOf i)
  | .text t => return leaf .string (← textOf t)
  | .clock t => do
    match ← prepareDates with
    | .ok () => return leaf .timestamp (← instantOf t)
    | .error _ => return .error (.unsupportedType "datetime.datetime")
  | .null => do
    let _ ← prepareDates
    return .ok .null
  | .sequence items => do
    let _ ← prepareDates
    return (← convertItems levels items).map .array
  | .mapping entries => do
    let _ ← prepareDates
    return (← convertEntries levels [] entries).map .map
  | .foreign typeName => do
    let _ ← prepareDates
    return .error (.unsupportedType typeName)

/-- To read an object is to read its shape. -/
theorem run_convert_succ (levels : Nat) (r : Ref) (o : Owner) :
    (convert (levels + 1) r).run o = (readShape levels (o.interpreter.heap.shape r)).run o := by
  obtain ⟨ready, o', looked, -, steady, -⟩ :=
    (ends_prepareDates (o := o) (E := fun _ => False)).exists_run
  have heap : heap.run o = (.ok o.interpreter.heap, o) := rfl
  have heap' : Job.heap.run o' = (.ok o.interpreter.heap, o') := by rw [← steady.interpreter]; rfl
  -- Neither the look-up nor its outcome changes the heap in which the object is looked at.
  rw [convert, run_bind, heap]
  cases object : o.interpreter.heap.object r with
  | datetime t =>
    simp only [Heap.shape, object, readShape, run_bind, looked]
    cases ready with
    | ok _ => rfl
    | error _ => simp only [run_bind, heap', Heap.typeName, object]
  | bool _ | int _ | float _ | str _ | bytes _ | byteArray _ =>
    simp only [Heap.shape, object, readShape]
  | list _ | tuple _ | dict _ | none =>
    simp only [Heap.shape, object, readShape, run_bind, looked]
  | _ =>
    simp only [Heap.shape, object, readShape, run_bind, looked]
    cases ready <;> simp only [heap', Heap.typeName, object]

end Job

end InterpreterHost
