import InterpreterHost.Proofs.Marshal.Acceptance
import InterpreterHost.Proofs.Marshal.Denotation
import InterpreterHost.Proofs.Marshal.RoundTrip

/-!
# Sending back what was read

What was read from an object can be made an object of again, except at the ends of the calendar: a
date with a time zone may be in the calendar and its instant not.

## Main definitions

* `Heap.Rebuilt` — an object is another one, read as a tree and made anew
* `Job.Resends` — what it means that a value can be sent back

## Main statements

* `Heap.Rebuilt.of_denotes` — the objects of the value that an object denotes
* `Job.fromObject_resends` — what was read can be sent back
-/

namespace InterpreterHost

/-- An object that is made anew as it was. -/
def Object.isAtom : Object → Bool
  | none | bool _ | int _ | float _ | str _ => true
  | _ => false

namespace Heap

/-- An object that is there is in a cell. -/
theorem exists_cell {h : Heap} {r : Ref} {o : Object} (object : h.object r = o) (there : o ≠ .none) :
    ∃ c ∈ h.cells.toList, c.object = o := by
  unfold Heap.object at object
  cases cell : h.cells[r]? with
  | none =>
    rw [cell] at object
    exact absurd object.symm there
  | some c =>
    rw [cell] at object
    exact ⟨c, Array.mem_toList_iff.2 (Array.mem_of_getElem? cell), object⟩

/-- The object at a place of the second heap is the one at a place of the first, read as a tree and
made anew: tuples are lists, octets can be changed, dates with a time zone are in universal time
without one, a time of day that is shown twice is the first of the two, which for a date without a time zone is
equal to it, and dictionaries are rearranged and lack the entries whose keys are no texts. -/
inductive Rebuilt (h h' : Heap) : Ref → Ref → Prop
  | atom {r r' : Ref} {a : Object} (plain : a.isAtom) (old : h.object r = a) (new : h'.object r' = a) :
      Rebuilt h h' r r'
  | octets {r r' : Ref} {content : Octets}
      (old : h.object r = .bytes content ∨ h.object r = .byteArray content)
      (new : h'.object r' = .byteArray content) : Rebuilt h h' r r'
  | naive {r r' : Ref} {t : DateTime} (naive : t.zone = none) (old : h.object r = .datetime t)
      (new : h'.object r' = .datetime { t with fold := false }) : Rebuilt h h' r r'
  | aware {r r' : Ref} {t : DateTime} (aware : t.zone ≠ none) (old : h.object r = .datetime t)
      (new : h'.object r' = .datetime (.ofTimestamp t.instant)) : Rebuilt h h' r r'
  | sequence {r r' : Ref} {items items' : List Ref}
      (old : h.object r = .list items ∨ h.object r = .tuple items) (new : h'.object r' = .list items')
      (parts : List.Forall₂ (Rebuilt h h') items items') : Rebuilt h h' r r'
  | mapping {r r' : Ref} {entries entries' : List (Ref × Ref)} {kept : List (CodePoints × Ref)}
      (old : h.object r = .dict entries) (rearranged : kept.Perm (h.textEntries entries))
      (new : h'.object r' = .dict entries')
      (keys : List.Forall₂ (fun e e' => h'.object e'.1 = .str e.1) kept entries')
      (values : List.Forall₂ (Rebuilt h h') (kept.map Prod.snd) (entries'.map Prod.snd)) :
      Rebuilt h h' r r'

variable {h h' : Heap}

theorem rebuilt_items {items : List Value}
    (parts : ∀ v ∈ items, ∀ r r', h.Denotes v r → h'.Holds v r' → h.Rebuilt h' r r')
    {refs refs' : List Ref} (denoted : h.DenotesAll items refs) (held : h'.HoldsAll items refs') :
    List.Forall₂ (h.Rebuilt h') refs refs' := by
  induction items generalizing refs refs' with
  | nil =>
    obtain rfl : refs = [] := denoted
    obtain rfl : refs' = [] := held
    exact .nil
  | cons v items ih =>
    obtain ⟨head, tail⟩ := List.forall_mem_cons.1 parts
    obtain ⟨r, rest, rfl, first, others⟩ := denoted
    obtain ⟨r', rest', rfl, first', others'⟩ := held
    exact .cons (head r r' first first') (ih tail others others')

theorem rebuilt_entries {entries : List (String × Value)}
    (parts : ∀ e ∈ entries, ∀ r r', h.Denotes e.2 r → h'.Holds e.2 r' → h.Rebuilt h' r r')
    {kept : List (CodePoints × Ref)} {refs : List (Ref × Ref)}
    (denoted : h.DenotesEntries entries kept) (held : h'.HoldsEntries entries refs) :
    List.Forall₂ (fun e e' => h'.object e'.1 = .str e.1) kept refs ∧
      List.Forall₂ (h.Rebuilt h') (kept.map Prod.snd) (refs.map Prod.snd) := by
  induction entries generalizing kept refs with
  | nil =>
    obtain rfl : kept = [] := denoted
    obtain rfl : refs = [] := held
    exact ⟨.nil, .nil⟩
  | cons e entries ih =>
    obtain ⟨k, v⟩ := e
    obtain ⟨head, tail⟩ := List.forall_mem_cons.1 parts
    obtain ⟨r, rest, rfl, first, others⟩ := denoted
    obtain ⟨key, r', rest', rfl, named, first', others'⟩ := held
    obtain ⟨keys, values⟩ := ih tail others others'
    exact ⟨.cons named.object keys, .cons (head r r' first first') values⟩

/-- The objects of the value that an object denotes are the object made anew. -/
theorem Rebuilt.of_denotes (v : Value) :
    ∀ r r', h.Denotes v r → h'.Holds v r' → h.Rebuilt h' r r' := by
  induction v using Value.induction with
  | null | bool b | int i | float f | string s =>
    intro r r' denoted held
    exact .atom rfl denoted held.object
  | blob content =>
    intro r r' denoted held
    exact .octets denoted held.object
  | timestamp t =>
    rintro r r' ⟨c, object, valid, rfl⟩ held
    by_cases naive : c.zone = none
    · have same := held.object
      rw [DateTime.ofTimestamp_instant valid naive] at same
      exact .naive naive object same
    · exact .aware naive object held.object
  | array items parts =>
    rintro r r' ⟨refs, object, denoted⟩ ⟨refs', list, held⟩
    exact .sequence object list.object (rebuilt_items parts denoted held)
  | map entries parts =>
    rintro r r' ⟨refs, kept, object, rearranged, denoted⟩ ⟨refs', dict, held⟩
    obtain ⟨keys, values⟩ := rebuilt_entries parts denoted held
    exact .mapping object rearranged dict.object keys values

end Heap

/-- A value whose instants are whole microseconds is not cut. -/
theorem Timestamp.truncate_of_whole {t : Timestamp} (whole : t.nanos < 1000000000 ∧ t.nanos % 1000 = 0) :
    t.truncate = t := by
  obtain ⟨seconds, nanos⟩ := t
  simp only [truncate, micros, Timestamp.mk.injEq, true_and] at whole ⊢
  omega

theorem Value.truncate_of_whole (v : Value) :
    (∀ t ∈ v.timestamps, t.nanos < 1000000000 ∧ t.nanos % 1000 = 0) → v.truncate = v := by
  induction v using Value.induction with
  | timestamp t =>
    intro whole
    rw [truncate, Timestamp.truncate_of_whole (whole t (List.mem_singleton.2 rfl))]
  | array items parts =>
    rw [timestamps, truncate]
    intro whole
    congr 1
    induction items with
    | nil => rfl
    | cons v items ih =>
      obtain ⟨head, tail⟩ := List.forall_mem_cons.1 parts
      obtain ⟨first, others⟩ := List.forall_mem_append.1 whole
      rw [truncateAll, head first, ih tail others]
  | map entries parts =>
    rw [timestamps, truncate]
    intro whole
    congr 1
    induction entries with
    | nil => rfl
    | cons e entries ih =>
      obtain ⟨k, v⟩ := e
      obtain ⟨head, tail⟩ := List.forall_mem_cons.1 parts
      obtain ⟨first, others⟩ := List.forall_mem_append.1 whole
      rw [truncateEntries, head first, ih tail others]
  | _ => exact fun _ => rfl

namespace Job

/-! ## Making the objects of a value -/

/-- Objects are made of a value that the calendar has the years of. -/
theorem exists_run_toObject {o : Owner} (calm : o.pending = none)
    (singles : o.interpreter.heap.HasSingletons) {v : Value} (distinct : v.Distinct)
    (dates : v.hasTimestamp → o.hasDates) (possible : v.InCalendar) :
    ∃ r o₁, (toObject v).run o = (.ok (.ok r), o₁) := by
  obtain ⟨result, o₁, run, r, rfl, -⟩ := (ends_toObject calm singles distinct dates possible).exists_run
  exact ⟨r, o₁, run⟩

/-- What was made are the objects of the value. -/
theorem holds_of_run_toObject {o o₁ : Owner} {r : Ref} (calm : o.pending = none)
    (singles : o.interpreter.heap.HasSingletons) {v : Value} (distinct : v.Distinct)
    (dates : v.hasTimestamp → o.hasDates) (run : (toObject v).run o = (.ok (.ok r), o₁)) :
    v.InCalendar ∧ o₁.interpreter.heap.Holds v r ∧ o₁.pending = none ∧
      (v.hasTimestamp → o₁.hasDates) := by
  have made := ends_placing calm v.hasTimestamp (·.place {} v) fun _ _ => o.warns_panics
  change Ends (toObject v) o _ _ at made
  rw [Ends, run] at made
  simp only [if_pos dates] at made
  obtain ⟨result, steady, calm₁⟩ := made
  have placed := Heap.place_yields v o.interpreter.heap {} singles distinct
  generalize o.interpreter.heap.place {} v = made at placed result steady calm₁
  rcases made with ⟨e | r', h⟩
  · cases result
  · cases result
    obtain ⟨possible, holds, -⟩ := placed
    refine ⟨possible, ?_, calm₁, fun found => steady.hasDates (dates found)⟩
    rw [steady.interpreter]
    exact holds

/-! ## Sending back -/

/-- The value that was read from an object can be sent back, except at the ends of the calendar. -/
structure Resends (o : Owner) (r : Ref) (v : Value) (o' : Owner) : Prop where
  /-- Its instants are whole microseconds outside of leap seconds. -/
  whole : ∀ t ∈ v.timestamps, t.nanos < 1000000000 ∧ t.nanos % 1000 = 0
  /-- None of its parts lies too deep. -/
  depth : v.depth ≤ maxDepth
  /-- An object can be made of it exactly if the calendar has the years of its instants. -/
  made_iff : (∃ r' o₁, (toObject v).run o' = (.ok (.ok r'), o₁)) ↔
    ∀ t ∈ v.timestamps, DateTime.hasYear t.date.year
  /-- An instant that the calendar lacks is that of a date with a time zone which is less than a day
  away from one of its ends. -/
  edge : ∀ t ∈ v.timestamps, ¬ DateTime.hasYear t.date.year →
    ∃ c, .clock c ∈ o.interpreter.heap.visits (maxDepth + 1) r ∧ c.instant = t ∧
      c.isValid ∧ DateTime.hasYear c.date.year ∧ c.zone ≠ none ∧ c.AtEdge
  /-- What is made of it is the object made anew, and the value is read from it again. -/
  back : ∀ r' o₁, (toObject v).run o' = (.ok (.ok r'), o₁) →
    Gives (fromObject r') o₁ (.ok v) ∧ o.interpreter.heap.Rebuilt o₁.interpreter.heap r r'

/-- What was read from an object without running out of memory can be sent back. -/
theorem fromObject_resends {o o' : Owner} {r : Ref} {v : Value} (calm : o.pending = none)
    (singles : o.interpreter.heap.HasSingletons) (sound : o.interpreter.heap.Sound)
    (spared : Spared (o.interpreter.heap.visits (maxDepth + 1) r))
    (read : (fromObject r).run o = (.ok (.ok v), o')) : Resends o r v o' := by
  have found := finds_convert sound (maxDepth + 1) rfl calm r spared
  change Finds (fromObject r) o _ at found
  rw [Finds, Ends, read] at found
  obtain ⟨steady, calm', denoted, fits⟩ := found v rfl
  have dated := Heap.dated v (maxDepth + 1) r denoted fits.depth
  have singles' : o'.interpreter.heap.HasSingletons := by rwa [steady.interpreter]
  have whole : ∀ t ∈ v.timestamps, t.nanos < 1000000000 ∧ t.nanos % 1000 = 0 := by
    intro t member
    obtain ⟨-, c, -, -, valid, rfl⟩ := dated t member
    exact DateTime.instant_whole valid
  have distinct : v.Distinct := fits.ordered.distinct
  refine ⟨whole, Nat.lt_succ_iff.1 fits.depth,
    ⟨?_, exists_run_toObject calm' singles' distinct fits.dates⟩, ?_, ?_⟩
  · rintro ⟨r', o₁, run⟩
    exact (holds_of_run_toObject calm' singles' distinct fits.dates run).1
  · intro t member shifted
    obtain ⟨r', c, object, visited, valid, rfl⟩ := dated t member
    have year := sound.year object
    obtain ⟨aware, edge⟩ := DateTime.atEdge_of_instant valid year (fun _ => sound.offset object) shifted
    exact ⟨c, visited, rfl, valid, year, aware, edge⟩
  · intro r' o₁ run
    obtain ⟨-, holds, calm₁, dates⟩ := holds_of_run_toObject calm' singles' distinct fits.dates run
    have again := gives_convert v (maxDepth + 1) r' o₁ calm₁ holds dates fits.ordered
    rw [verdict, if_pos fits.depth, v.truncate_of_whole whole] at again
    exact ⟨again, .of_denotes v r r' denoted holds⟩

/-- Half past midnight on the first day of the calendar, an hour ahead of universal time. -/
def beforeFirst : DateTime := { DateTime.first with minute := 30, zone := some (.fixed 3600000000) }

/-- A pair of octets and of a date that is in the calendar while its instant is not. -/
theorem fromObject_resends_beforeFirst :
    let o := holding [.bytes [1, 2], .datetime beforeFirst, .tuple [3, 4]]
    let v := Value.array [.blob [1, 2], .timestamp ⟨-62135598600, 0⟩]
    o.pending = none ∧ o.interpreter.heap.HasSingletons ∧ o.interpreter.heap.Sound ∧
      Spared (o.interpreter.heap.visits (maxDepth + 1) 5) ∧
      (fromObject 5).run o = (.ok (.ok v), ((fromObject 5).run o).2) ∧
      Resends o 5 v ((fromObject 5).run o).2 := by
  intro o v
  have singles : o.interpreter.heap.HasSingletons :=
    .of_three ⟨rfl, by decide⟩ ⟨rfl, by decide⟩ ⟨rfl, by decide⟩
  -- There is one date and no dictionary.
  have cells : ∀ c ∈ o.interpreter.heap.cells.toList,
      (∀ t, c.object = .datetime t → t = beforeFirst) ∧ ∀ entries, c.object ≠ .dict entries := by
    simp [o, holding, Heap.initial]
  have sound : o.interpreter.heap.Sound := by
    refine ⟨fun {r t} object => ?_, fun {r t m} object zone => ?_, fun {r entries} object => ?_⟩
    · obtain ⟨c, member, same⟩ := Heap.exists_cell object (by simp)
      rw [(cells c member).1 t same]
      rfl
    · obtain ⟨c, member, same⟩ := Heap.exists_cell object (by simp)
      rw [(cells c member).1 t same] at zone
      cases zone
      decide
    · obtain ⟨c, member, same⟩ := Heap.exists_cell object (by simp)
      exact absurd same ((cells c member).2 entries)
  have spared : Spared (o.interpreter.heap.visits (maxDepth + 1) 5) := by
    have visits : o.interpreter.heap.visits (maxDepth + 1) 5 = [.late, .known, .clock beforeFirst] := by
      rfl
    rw [visits]
    simp [Spared, beforeFirst, Zone.exhausts]
  have read : (fromObject 5).run o = (.ok (.ok v), ((fromObject 5).run o).2) := Prod.ext (by cbv) rfl
  exact ⟨rfl, singles, sound, spared, read, fromObject_resends rfl singles sound spared read⟩

end Job

end InterpreterHost
