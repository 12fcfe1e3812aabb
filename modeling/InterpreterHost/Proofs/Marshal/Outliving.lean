import InterpreterHost.Call.Invocation
import InterpreterHost.Proofs.Heap.Finalization
import InterpreterHost.Proofs.Marshal.Alike
import InterpreterHost.Proofs.Owner.Keeping

/-!
# Reading what outlives others

An object that someone refers to is the same before other references are given up and afterwards, with all that
can be reached from it.  So it is read in the same way: to give up references first and to read a result then
comes to the same as the other way round, where nothing has a finalizer that goes by that.

## Main definitions

* `Owner.without` — the owner once references were given up
* `Owner.lettingGo` — the owner once references were let go of, with what finalizers do then

## Main statements

* `Heap.Survives.alike` — what is still referred to looks the same
* `Job.run_releasing` — code gives a result or panics, and references are let go of afterwards
* `Call.run_toValue_without` — a result is read in the same way once other references were given up
-/

namespace InterpreterHost

/-! ## What stays as it was -/

namespace Heap

variable {h h' : Heap} {r : Ref} {refs kept : List Ref}

namespace Survives

/-- What an object refers to that is still there is there too. -/
theorem object_child (survives : h.Survives h') (owes : h'.Owes kept) (held : 0 < h'.count r) {i : Ref}
    (child : i ∈ (h.object r).children) : 0 < h'.count i ∧ h'.object i = h.object i := by
  have has := survives.has held (survives.has_of_held held)
  have held' : 0 < h'.count i := owes.count_pos_of_child has child
  exact ⟨held', survives.object held'⟩

theorem typeName (survives : h.Survives h') (owes : h'.Owes kept) (held : 0 < h'.count r) :
    h'.typeName r = h.typeName r := by
  have part {i : Ref} {o : Object} (object : h.object r = o) (child : i ∈ o.children) : h'.object i = h.object i :=
    (survives.object_child owes held (object ▸ child)).2
  unfold Heap.typeName
  rw [survives.object held]
  -- Only a method and an instance are called by something that they refer to.
  split
  all_goals try rfl
  · next f self object => rw [part object List.mem_cons_self]
  · next c attributes object => rw [part object List.mem_cons_self]

theorem textEntries (survives : h.Survives h') {entries : List (Ref × Ref)}
    (keys : ∀ e ∈ entries, 0 < h'.count e.1) : h'.textEntries entries = h.textEntries entries := by
  refine List.filterMap_congr fun e mem => ?_
  rw [survives.object (keys e mem)]

/-- What is still referred to looks the same to one who reads it. -/
theorem alike (survives : h.Survives h') (owes : h'.Owes kept) :
    h.Alike h' fun r r' => r = r' ∧ 0 < h'.count r := by
  rintro r _ ⟨rfl, held⟩
  have part {i : Ref} (child : i ∈ (h.object r).children) : 0 < h'.count i :=
    (survives.object_child owes held child).1
  have named := survives.typeName owes held
  unfold shape
  rw [survives.object held]
  cases object : h.object r with
  | list items | tuple items =>
    rw [object] at part
    exact .sequence (List.forall₂_same.2 fun i item => ⟨rfl, part item⟩)
  | dict entries =>
    rw [object] at part
    have key (e : Ref × Ref) (mem : e ∈ entries) : 0 < h'.count e.1 :=
      part (List.mem_flatMap.2 ⟨e, mem, List.mem_cons_self⟩)
    refine .mapping ?_
    rw [survives.textEntries key]
    refine List.forall₂_same.2 fun x mem => ⟨rfl, rfl, ?_⟩
    obtain ⟨e, mem, entry⟩ := List.mem_filterMap.1 mem
    have value : 0 < h'.count e.2 := part (List.mem_flatMap.2 ⟨e, mem, by simp⟩)
    split at entry <;> cases entry
    exact value
  | bool | float | byteArray | bytes => exact .known _
  | int i => exact .int i
  | str t => exact .text t
  | datetime t => exact .clock t
  | none => exact .null
  | _ =>
    dsimp only
    rw [named]
    exact .foreign _

end Survives

/-- It does not matter which references are given up first. -/
theorem releaseAll_comm (h : Heap) (refs kept : List Ref) :
    (h.releaseAll refs).releaseAll kept = (h.releaseAll kept).releaseAll refs := by
  rw [← releaseAll_append, ← releaseAll_append, releaseAll_perm h List.perm_append_comm]

end Heap

/-! ## The owner -/

/-- The owner once references were given up. -/
def Owner.without (o : Owner) (refs : List Ref) : Owner := o.withHeap (o.interpreter.heap.releaseAll refs)

@[simp] theorem Owner.without_nil (o : Owner) : o.without [] = o := by
  rw [without, Heap.releaseAll]
  rfl

theorem Owner.without_comm (o : Owner) (refs kept : List Ref) :
    (o.without refs).without kept = (o.without kept).without refs :=
  congrArg o.withHeap (o.interpreter.heap.releaseAll_comm refs kept)

/-- The owner once references were let go of. -/
def Owner.lettingGo (o : Owner) (refs : List Ref) : Owner :=
  { o with interpreter := o.library.letGo o.interpreter refs }

/-- Where nothing has a finalizer the references are given up. -/
theorem Owner.lettingGo_of_quiet {o : Owner} {refs : List Ref} (quiet : o.interpreter.heap.Quiet refs) :
    o.lettingGo refs = o.without refs := by
  rw [lettingGo, Library.letGo_of_quiet o.library quiet]
  rfl

@[simp] theorem Owner.lettingGo_nil (o : Owner) : o.lettingGo [] = o := by
  have quiet : o.interpreter.heap.Quiet [] := by
    intro r held gone
    rw [Heap.releaseAll] at gone
    omega
  rw [lettingGo_of_quiet quiet, without_nil]

namespace Job

variable {α : Type} {o : Owner} {refs kept : List Ref} {r : Ref}

theorem run_releaseAll (refs : List Ref) (o : Owner) : (releaseAll refs).run o = (.ok (), o.without refs) := rfl

/-- Code gives a result or panics, and references are let go of afterwards. -/
theorem run_releasing (refs : List Ref) (code : Job α) (o : Owner) :
    (releasing refs code).run o = ((code.run o).1, (code.run o).2.lettingGo refs) := by
  unfold releasing
  rw [run_bind, run_tryCatch]
  rcases code.run o with ⟨p | a, o'⟩ <;> rfl

/-- Code that does the same with less in the heap does so once references were given up. -/
theorem Mirrors.run_without {code : Job α}
    (mirrors : Mirrors o.interpreter.heap (o.interpreter.heap.releaseAll refs) code code) :
    code.run (o.without refs) = ((code.run o).1, (code.run o).2.without refs) := by
  obtain ⟨run, heap⟩ := mirrors o rfl
  rw [Owner.without, run, Owner.without, heap]

/-- So does it if references of its own are let go of at its end, where nothing has a finalizer. -/
theorem run_releasing_without {code : Job α}
    (mirrors : Mirrors o.interpreter.heap (o.interpreter.heap.releaseAll refs) code code)
    (quiet : o.interpreter.heap.Quiet (refs ++ kept)) :
    (releasing kept code).run (o.without refs) =
      (((releasing kept code).run o).1, ((releasing kept code).run o).2.without refs) := by
  have heap : (code.run o).2.interpreter.heap = o.interpreter.heap := (mirrors o rfl).2
  rw [← heap] at quiet
  have first : (code.run o).2.lettingGo kept = (code.run o).2.without kept :=
    Owner.lettingGo_of_quiet (quiet.perm List.perm_append_comm).of_append
  have second : ((code.run o).2.without refs).lettingGo kept = ((code.run o).2.without refs).without kept :=
    Owner.lettingGo_of_quiet quiet.releaseAll
  rw [run_releasing, run_releasing, mirrors.run_without, first, second]
  exact congrArg _ (Owner.without_comm _ _ _)

/-- An object that someone refers to is read in the same way once other references were given up. -/
theorem mirrors_fromObject {h : Heap} (owes : h.Owes (refs ++ r :: kept)) :
    Mirrors h (h.releaseAll refs) (fromObject r) (fromObject r) := by
  have owed : (h.releaseAll refs).Owes (r :: kept) := owes.releaseAll
  exact mirrors_convert ((Heap.survives_releaseAll h refs).alike owed) _
    ⟨rfl, owed.count_pos_of_mem List.mem_cons_self⟩

end Job

/-- A result is read in the same way once other references were given up. -/
theorem Call.run_toValue_without {o : Owner} {refs kept : List Ref} {r : Ref} (name : String)
    (owes : o.interpreter.heap.Owes (refs ++ r :: kept)) (quiet : o.interpreter.heap.Quiet (refs ++ [r])) :
    (toValue name r).run.run (o.without refs) =
      (((toValue name r).run.run o).1, ((toValue name r).run.run o).2.without refs) :=
  Job.run_releasing_without (.bind (Job.mirrors_fromObject owes) fun _ => (Job.Blind.pure _).mirrors) quiet

end InterpreterHost
