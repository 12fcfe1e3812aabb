import InterpreterHost.Proofs.Marshal.Classes
import InterpreterHost.Proofs.Marshal.RoundTrip
import InterpreterHost.Proofs.Marshal.Twins
import InterpreterHost.Proofs.Owner.Keeping
import InterpreterHost.Proofs.Value.JsonText

/-!
# Values of documents as objects

A value without blobs, timestamps and floats that are not finite is made objects of without looking for dates,
and is read from them as it is: nothing is cut, and what the reader of documents accepts is never too deep for
the reader of objects.

## Main definitions

* `Value.Dateless` — what conversions see of a value without timestamps

## Main statements

* `Value.dateless_of_plain` — plain values are such values
* `Job.run_toArguments_singleton` — a tuple of one argument
* `Job.gives_fromObject` — the objects of a value that was read from a document
-/

namespace InterpreterHost

namespace Value

/-- There are no dates in the value, so that nothing is cut, and its depth is no more than its nesting. -/
structure Dateless (v : Value) : Prop where
  timestamps : v.timestamps = []
  hasTimestamp : v.hasTimestamp = false
  truncate : v.truncate = v
  depth : v.depth ≤ v.nesting

theorem dateless_array {items : List Value} (parts : ∀ v ∈ items, v.Dateless) : (array items).Dateless := by
  have all : timestampsAll items = [] ∧ anyTimestamp items = false ∧ truncateAll items = items ∧
      depthItems items ≤ nestingItems items + 1 := by
    induction items with
    | nil => exact ⟨rfl, rfl, rfl, Nat.zero_le _⟩
    | cons v items ih =>
      obtain ⟨head, tail⟩ := List.forall_mem_cons.1 parts
      obtain ⟨timestamps, dates, cut, deep⟩ := ih tail
      have depth := head.depth
      refine ⟨?_, ?_, ?_, ?_⟩
      · rw [timestampsAll, head.timestamps, timestamps, List.nil_append]
      · rw [anyTimestamp, head.hasTimestamp, dates, Bool.or_self]
      · rw [truncateAll, head.truncate, cut]
      · rw [depthItems, nestingItems]
        omega
  exact ⟨all.1, all.2.1, congrArg array all.2.2.1, all.2.2.2⟩

theorem dateless_map {entries : ValueMap} (parts : ∀ e ∈ entries, e.2.Dateless) : (map entries).Dateless := by
  have all : timestampsEntries entries = [] ∧ anyTimestampEntries entries = false ∧
      truncateEntries entries = entries ∧ depthEntries entries ≤ nestingEntries entries + 1 := by
    induction entries with
    | nil => exact ⟨rfl, rfl, rfl, Nat.zero_le _⟩
    | cons e entries ih =>
      obtain ⟨head, tail⟩ := List.forall_mem_cons.1 parts
      obtain ⟨timestamps, dates, cut, deep⟩ := ih tail
      have depth := head.depth
      refine ⟨?_, ?_, ?_, ?_⟩
      · rw [timestampsEntries, head.timestamps, timestamps, List.nil_append]
      · rw [anyTimestampEntries, head.hasTimestamp, dates, Bool.or_self]
      · rw [truncateEntries, head.truncate, cut]
      · rw [depthEntries, nestingEntries]
        omega
  exact ⟨all.1, all.2.1, congrArg map all.2.2.1, all.2.2.2⟩

theorem dateless_of_plain {v : Value} : v.Plain → v.Dateless := by
  induction v using Value.induction with
  | timestamp t => exact False.elim
  | array items parts =>
    exact fun plain => dateless_array fun v member => parts v member (plainItems_iff.1 plain v member)
  | map entries parts =>
    exact fun plain => dateless_map fun e member => parts e member (plainEntries_iff.1 plain e member)
  | _ => exact fun _ => ⟨rfl, rfl, rfl, Nat.zero_le _⟩

end Value

namespace Job

variable {v : Value} {o : Owner}

/-- A value without dates is put into a tuple, with nothing looked for. -/
theorem run_toArguments_singleton (dateless : v.Dateless) (distinct : v.Distinct)
    (singles : o.interpreter.heap.HasSingletons)
    {refs : List Ref} (owes : o.interpreter.heap.Owes refs) :
    ∃ t r h, (toArguments [v]).run o = (.ok (.ok t), o.withHeap h) ∧ h.Has t (.tuple [r]) ∧ h.Holds v r ∧
      o.interpreter.heap.Extends h ∧ o.interpreter.heap.AddsNoClass h ∧ h.Owes (t :: refs) := by
  have none : Value.anyTimestamp [v] = false := by
    rw [Value.anyTimestamp, dateless.hasTimestamp]
    rfl
  have possible : InCalendar (Value.timestampsAll [v]) := by
    rw [Value.timestampsAll, dateless.timestamps]
    exact inCalendar_nil
  have made : Heap.Result _ (InCalendar (Value.timestampsAll [v])) {} _ _
      (o.interpreter.heap.placeArguments {} [v]) :=
    Heap.placeArguments_result (List.forall_mem_singleton.2 distinct) {} singles
  have unclassed := o.interpreter.heap.addsNoClass_placeArguments {} [v]
  unfold toArguments
  rw [placing_eq, none, if_neg Bool.false_ne_true, pure_bind, making, run_get_bind]
  generalize o.interpreter.heap.placeArguments {} [v] = placed at made unclassed
  rcases placed with ⟨e | t, h⟩
  · exact absurd possible (made.1.impossible .default).1
  · obtain ⟨-, ⟨refs', tuple, r, rest, rfl, holds, nothing⟩, gained⟩ := made
    obtain rfl : rest = [] := nothing
    exact ⟨t, r, h, rfl, tuple, holds, gained.grown, unclassed, gained.owes owes⟩

/-- The objects of a value that was read from a document are read as the same value. -/
theorem gives_fromObject {text : String} (read : Value.parseJson text = .ok v) (calm : o.pending = none)
    {r : Ref} (holds : o.interpreter.heap.Holds v r) : Gives (fromObject r) o (.ok v) := by
  obtain ⟨j, fits, document⟩ := Value.fromDocument_of_parseJson read
  have dateless := Value.dateless_of_plain document.plain
  have gives := gives_convert v (maxDepth + 1) r o calm holds (by simp [dateless.hasTimestamp]) document.ordered
  -- 127 levels in a document, 512 in a graph of objects.
  have shallow : v.depth < maxDepth + 1 := by
    have depth := dateless.depth
    have nesting := document.nesting
    simp only [Json.maxNesting] at fits
    simp only [maxDepth]
    omega
  rwa [verdict, if_pos shallow, dateless.truncate] at gives

end Job

end InterpreterHost
