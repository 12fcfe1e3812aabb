import InterpreterHost.Proofs.Marshal.Shape

/-!
# The course of reading

Reading an object comes to its parts in a fixed order, depth first and from left to right, and stops
at the first one that it cannot read.  This file lists what reading comes to and says of each of
these visits when it ends the reading; a graph that contains itself has a list too, since reading
goes no deeper than `maxDepth`.

## Main definitions

* `Visit`, `Heap.visits` — what reading comes to, in this order
* `Fault` — why a visit ends the reading
* `Reader`, `Reader.read` — what visits depend on and leave to later ones

## Main statements

* `Job.ends_convert` — reading ends as its visits have it

## Design notes

Visits depend on each other in one way only.  If the time zone of a date says that memory ran out,
that exception stays pending, and the number -1 is then taken for an error.  `Reader.exhausted`
follows that exception.
-/

namespace InterpreterHost

/-- Something that reading comes to. -/
inductive Visit where
  /-- An object that is a value as it stands. -/
  | known
  | int (i : Int)
  /-- A text, be it a key. -/
  | text (t : CodePoints)
  | clock (t : DateTime)
  /-- A container or nothing: what is recognised after dates were looked for. -/
  | late
  | foreign (typeName : String)
  /-- An object that lies too deep. -/
  | tooDeep
deriving DecidableEq, Repr

/-- What reading comes to, with `levels` containers left that may lie around the parts of the object. -/
def Heap.visits (h : Heap) : Nat → Ref → List Visit
  | 0, _ => [.tooDeep]
  | levels + 1, r =>
    match h.shape r with
    | .known _ => [.known]
    | .int i => [.int i]
    | .text t => [.text t]
    | .clock t => [.clock t]
    | .null => [.late]
    | .sequence items => .late :: items.flatMap (h.visits levels)
    | .mapping entries =>
      .late :: (h.textEntries entries).flatMap fun e => .text e.1 :: h.visits levels e.2
    | .foreign typeName => [.foreign typeName]

/-- Why reading ends at a visit. -/
inductive Fault where
  | tooDeep
  | overflow
  | unencodable (t : CodePoints)
  /-- Memory had run out before. -/
  | exhausted
  | invalidDate
  | unsupported (typeName : String)
deriving DecidableEq, Repr

namespace Fault

/-- The error that a fault becomes. -/
def error (o : Owner) : Fault → CallError
  | tooDeep => Job.tooDeep
  | overflow => .interpreter (o.errorOf (.builtin "OverflowError" "int too big to convert"))
  | unencodable t => .interpreter (o.errorOf (.unencodable t))
  | exhausted => .interpreter .noMemory
  | invalidDate => .interpreter (.exception (.ofMain "ValueError: datetime fields out of range"))
  | unsupported typeName => .unsupportedType typeName

/-- Whether the fault leaves the pending exception as it was. -/
def isSilent : Fault → Bool
  | overflow | unencodable _ => false
  | _ => true

theorem error_eq {o o' : Owner} (h : Owner.Steady o o') (f : Fault) : f.error o' = f.error o := by
  cases f <;> simp only [error, h.errorOf]

end Fault

/-! ## The state of a reader -/

/-- What visits depend on and leave to later ones. -/
structure Reader where
  /-- Dates can be read. -/
  hasDates : Bool
  /-- Dates can be read once they were looked for. -/
  findsDates : Bool
  /-- The exception that memory ran out is pending. -/
  exhausted : Bool
deriving DecidableEq, Repr

namespace Reader

/-- Why reading ends at a visit, if it does. -/
def fault? (s : Reader) : Visit → Option Fault
  | .known | .late => none
  | .int i =>
    if ¬ isInt64 i then some .overflow
    else if i = -1 ∧ s.exhausted then some .exhausted
    else none
  | .text t => if t.toString?.isSome then none else some (.unencodable t)
  | .clock t =>
    if ¬ s.hasDates then some (.unsupported "datetime.datetime")
    else if ¬ t.isValid then some .invalidDate
    else none
  | .foreign typeName => some (.unsupported typeName)
  | .tooDeep => some .tooDeep

/-- The state after a visit at which reading does not end.  A time zone is asked with a call, which
takes away the exception that was pending; only one that ran out of memory leaves its own. -/
def next (s : Reader) : Visit → Reader
  | .late => { s with hasDates := s.findsDates }
  | .clock t =>
    { s with
      hasDates := s.findsDates
      exhausted := match t.zone with
        | some zone => zone.exhausts
        | none => s.exhausted }
  | _ => s

/-- Why reading ends, if it ends before the last visit is over, and the state that it leaves. -/
def read (s : Reader) : List Visit → Option Fault × Reader
  | [] => (none, s)
  | v :: visits =>
    match s.fault? v with
    | some f => (some f, { s with exhausted := s.exhausted && f.isSilent })
    | none => (s.next v).read visits

theorem read_append (s : Reader) (xs ys : List Visit) :
    s.read (xs ++ ys) = match s.read xs with
      | (some f, t) => (some f, t)
      | (none, t) => t.read ys := by
  induction xs generalizing s with
  | nil => rfl
  | cons v xs ih =>
    simp only [List.cons_append, read]
    cases s.fault? v with
    | some f => rfl
    | none => exact ih (s.next v)

end Reader

/-! ## Readers and owners -/

/-- The exception that memory ran out is pending if `exhausted`, and none is otherwise. -/
def Owner.Pends (o : Owner) (exhausted : Bool) : Prop :=
  if exhausted then ∃ e, o.pending = some e ∧ e.thrown.exceptionClass.isMemoryError
  else o.pending = none

theorem Owner.Pends.of_pending {o o' : Owner} {exhausted : Bool} (h : o.Pends exhausted)
    (same : o'.pending = o.pending) : o'.Pends exhausted := by
  simpa only [Pends, same] using h

/-- The state of a reader is that of the owner. -/
structure Reader.Fits (s : Reader) (o : Owner) : Prop where
  hasDates : o.hasDates = s.hasDates
  findsDates : o.findsDates = s.findsDates
  pends : o.Pends s.exhausted
  hasDates_of_exhausted : s.exhausted → s.hasDates

namespace Owner.Pends

variable {o : Owner} {exhausted : Bool}

theorem isSome (h : o.Pends exhausted) : o.pending.isSome = exhausted := by
  cases exhausted with
  | true =>
    obtain ⟨e, pending, -⟩ := h
    simp [pending]
  | false => simpa [Owner.Pends] using h

/-- Whatever is pending says that memory ran out. -/
theorem isMemoryError (h : o.Pends exhausted) {e : Raised} (pending : o.pending = some e) :
    e.thrown.exceptionClass.isMemoryError := by
  cases exhausted with
  | true =>
    obtain ⟨e', pending', memory⟩ := h
    cases pending.symm.trans pending'
    exact memory
  | false => cases pending.symm.trans h

/-- What is pending after an exception was taken over that was pending. -/
theorem of_fetched {e : Raised}
    (h : o.pending = if e.thrown.exceptionClass.isMemoryError then some e else none) :
    o.Pends e.thrown.exceptionClass.isMemoryError := by
  cases memory : e.thrown.exceptionClass.isMemoryError with
  | true => exact ⟨e, by simpa [memory] using h, memory⟩
  | false => simpa [Owner.Pends, memory] using h

end Owner.Pends

/-- Reading ended as its visits have it. -/
structure Reads (o : Owner) (s : Reader) (visits : List Visit) (result : Except CallError α)
    (o' : Owner) : Prop where
  steady : Owner.Steady o o'
  verdict : match (s.read visits).1 with
    | none => ∃ a, result = .ok a
    | some f => result = .error (f.error o)
  pends : o'.Pends (s.read visits).2.exhausted
  fits : (s.read visits).1 = none → (s.read visits).2.Fits o'

namespace Reads

variable {o o₁ o₂ : Owner} {s : Reader} {xs ys : List Visit}

/-- Nothing was visited. -/
theorem nil (fits : s.Fits o) (a : α) : Reads o s [] (.ok a : Except CallError α) o :=
  ⟨.refl o, ⟨a, rfl⟩, fits.pends, fun _ => fits⟩

/-- A single visit that is over. -/
theorem visited {v : Visit} (steady : Owner.Steady o o₁) (fine : s.fault? v = none)
    (fits : (s.next v).Fits o₁) (a : α) : Reads o s [v] (.ok a : Except CallError α) o₁ := by
  have read : s.read [v] = (none, s.next v) := by simp only [Reader.read, fine]
  refine ⟨steady, ?_, ?_, ?_⟩ <;> rw [read]
  · exact ⟨a, rfl⟩
  · exact fits.pends
  · exact fun _ => fits

/-- A single visit at which reading ends. -/
theorem failed {v : Visit} {f : Fault} (steady : Owner.Steady o o₁) (fault : s.fault? v = some f)
    (pends : o₁.Pends (s.exhausted && f.isSilent)) :
    Reads o s [v] (.error (f.error o) : Except CallError α) o₁ := by
  have read : s.read [v] = (some f, { s with exhausted := s.exhausted && f.isSilent }) := by
    simp only [Reader.read, fault]
  refine ⟨steady, ?_, ?_, ?_⟩ <;> rw [read]
  · exact pends
  · intro none
    cases none

/-- Reading goes on only after it has not ended. -/
theorem of_ok {a : α} (h : Reads o s xs (.ok a) o₁) :
    (s.read xs).1 = none ∧ (s.read xs).2.Fits o₁ := by
  have verdict := h.verdict
  cases read : (s.read xs).1 with
  | none => exact ⟨rfl, h.fits read⟩
  | some f =>
    rw [read] at verdict
    cases verdict

theorem append_of_ok {a : α} {result : Except CallError β} (h : Reads o s xs (.ok a) o₁)
    (h' : Reads o₁ (s.read xs).2 ys result o₂) : Reads o s (xs ++ ys) result o₂ := by
  have read : s.read (xs ++ ys) = (s.read xs).2.read ys := by
    rw [Reader.read_append]
    rcases split : s.read xs with ⟨none | f, t⟩
    · rfl
    · cases split ▸ h.of_ok.1
  have verdict := h'.verdict
  refine ⟨h.steady.trans h'.steady, ?_, read ▸ h'.pends, read ▸ h'.fits⟩
  rw [read]
  cases fault : ((s.read xs).2.read ys).1 with
  | none => simpa only [fault] using verdict
  | some f => simpa only [fault, f.error_eq h.steady] using verdict

theorem append_of_error {e : CallError} (h : Reads o s xs (.error e : Except CallError α) o₁)
    (ys : List Visit) : Reads o s (xs ++ ys) (.error e : Except CallError β) o₁ := by
  have verdict := h.verdict
  rcases split : s.read xs with ⟨none | f, t⟩
  · rw [split] at verdict
    obtain ⟨a, equal⟩ := verdict
    cases equal
  · have read : s.read (xs ++ ys) = s.read xs := by rw [Reader.read_append, split]
    refine ⟨h.steady, ?_, read ▸ h.pends, ?_⟩
    · rw [read, split]
      rw [split] at verdict
      simpa using verdict
    · rw [read, split]
      intro none
      cases none

/-- What is made of a result does not matter. -/
theorem map {result : Except CallError α} (h : Reads o s xs result o₁) (f : α → β) :
    Reads o s xs (result.map f) o₁ := by
  refine ⟨h.steady, ?_, h.pends, h.fits⟩
  have verdict := h.verdict
  cases fault : (s.read xs).1 with
  | none =>
    obtain ⟨a, rfl⟩ : ∃ a, result = .ok a := by simpa only [fault] using verdict
    exact ⟨f a, rfl⟩
  | some e =>
    obtain rfl : result = .error (e.error o) := by simpa only [fault] using verdict
    rfl

end Reads

end InterpreterHost
