import InterpreterHost.Call.Module
import InterpreterHost.Proofs.Library.Accounts
import InterpreterHost.Proofs.Marshal.Twins

/-!
# A library that copies lists

Code of the interpreter that hands an object out gives a new reference to it, and leaves the counts right.  The
smallest library of which this can be said has one module with one function, which copies lists.

## Main definitions

* `Computation.Yields` — code of the interpreter that gives a new reference
* `Library.copying` — a library with a module that copies lists

## Main statements

* `Computation.yields_copyList` — the copy of the objects of a value are objects of that value
* `Library.yields_importModule_copying`, `Library.yields_getAttribute_copying`, `Library.yields_call_copying` —
  the module, its function and what a call of it comes to
-/

namespace InterpreterHost

namespace Computation

/-- The code gives a new reference, and leaves the counts right and the objects that there is one of each. -/
structure Yields (code : Computation Ref) (i : Interpreter) (r : Ref) (i' : Interpreter) : Prop where
  run : code.run i = (.ok r, i')
  owes : ∀ {refs}, i.heap.Owes refs → i'.heap.Owes (r :: refs)
  singles : i.heap.HasSingletons → i'.heap.HasSingletons

/-- Copy a list; its items stay the same objects, as a copy has them where they never change. -/
def copyList (r : Ref) : Computation Ref := do
  match ← look r with
  | .list items => do newList (← retainAll items)
  | _ => retain r

/-- References to the items of a list, one more to each. -/
theorem run_retainAll {items : List Ref} (i : Interpreter) (there : ∀ r ∈ items, ∃ o, i.heap.Has r o) :
    ∃ h, (retainAll items).run i = (.ok items, { i with heap := h }) ∧ i.heap.Extends h ∧
      ∀ {refs}, i.heap.Owes refs → h.Owes (items ++ refs) := by
  induction items generalizing i with
  | nil => exact ⟨i.heap, rfl, .refl _, fun owes => owes⟩
  | cons r items ih =>
    obtain ⟨⟨o, has⟩, tail⟩ := List.forall_mem_cons.1 there
    have first := Heap.extends_retain i.heap r
    obtain ⟨h, run, extended, owes⟩ := ih { i with heap := i.heap.retain r }
      fun s member => (tail s member).imp fun _ => first.has
    refine ⟨h, ?_, first.trans extended, fun owed => (owes (owed.retain has)).perm List.perm_middle⟩
    have retained : (retain r).run i = (.ok r, { i with heap := i.heap.retain r }) := rfl
    unfold retainAll at run ⊢
    rw [List.mapM_cons, run_bind, retained]
    dsimp only
    rw [run_bind, run]
    rfl

section

variable {i : Interpreter} {r : Ref}

theorem run_look (i : Interpreter) (r : Ref) : (look r).run i = (.ok (i.heap.object r), i) := rfl

/-- The copy of a list is a new list of the same objects. -/
theorem yields_copyList_list {items : List Ref} (has : i.heap.Has r (.list items))
    (there : ∀ s ∈ items, ∃ o, i.heap.Has s o) : ∃ h, i.heap.Extends h ∧
      (copyList r).Yields i (h.alloc (.list items)).1 { i with heap := (h.alloc (.list items)).2 } := by
  obtain ⟨h, run, extended, owes⟩ := run_retainAll i there
  refine ⟨h, extended, ?_, fun owed => (owes owed).alloc, (extended.trans (Heap.extends_alloc h _)).hasSingletons⟩
  unfold copyList
  rw [run_bind, run_look, has.object]
  dsimp only
  rw [run_bind, run]
  rfl

/-- What is no list is its own copy. -/
theorem yields_copyList_other {o : Object} (has : i.heap.Has r o) (other : ∀ items, o ≠ .list items) :
    (copyList r).Yields i r { i with heap := i.heap.retain r } := by
  refine ⟨?_, fun owes => owes.retain has, (Heap.extends_retain i.heap r).hasSingletons⟩
  unfold copyList
  rw [run_bind, run_look, has.object]
  cases o with
  | list items => exact absurd rfl (other items)
  | _ => rfl

/-- An object to which there are references is copied. -/
theorem exists_yields_copyList (owes : i.heap.Owes []) (held : 0 < i.heap.count r) :
    ∃ r' i', (copyList r).Yields i r' i' := by
  have has := Heap.has_of_count_pos held
  by_cases list : ∃ items, i.heap.object r = .list items
  · obtain ⟨items, object⟩ := list
    rw [object] at has
    have there (s : Ref) (item : s ∈ items) : ∃ o, i.heap.Has s o :=
      ⟨_, Heap.has_of_count_pos (owes.count_pos_of_child has item)⟩
    obtain ⟨h, -, yields⟩ := yields_copyList_list has there
    exact ⟨_, _, yields⟩
  · exact ⟨_, _, yields_copyList_other has fun items same => list ⟨items, same⟩⟩

/-- To copy a list makes no class. -/
theorem addsNoClass_copyList (r : Ref) (i : Interpreter) :
    i.heap.AddsNoClass ((copyList r).run i).2.heap := by
  have retained (items : List Ref) (i : Interpreter) : i.heap.AddsNoClass ((retainAll items).run i).2.heap := by
    induction items generalizing i with
    | nil => exact .refl i.heap
    | cons r items ih =>
      have first := Heap.addsNoClass_retain i.heap r
      have rest := ih { i with heap := i.heap.retain r }
      unfold retainAll at rest ⊢
      rw [List.mapM_cons, run_bind]
      have one : (retain r).run i = (.ok r, { i with heap := i.heap.retain r }) := rfl
      rw [one]
      dsimp only
      rw [run_bind]
      generalize (items.mapM retain).run { i with heap := i.heap.retain r } = result at rest
      rcases result with ⟨e | made, i'⟩ <;> exact first.trans rest
  unfold copyList
  rw [run_bind, run_look]
  dsimp only
  split
  · next items object =>
    have held := retained items i
    rw [run_bind]
    generalize (retainAll items).run i = result at held
    rcases result with ⟨e | made, i'⟩
    · exact held
    · exact held.trans (Heap.addsNoClass_alloc i'.heap rfl)
  · exact Heap.addsNoClass_retain i.heap r

/-- The copy of the objects of a value are objects of that value. -/
theorem yields_copyList {v : Value} (holds : i.heap.Holds v r) :
    ∃ r' i', (copyList r).Yields i r' i' ∧ i'.heap.Holds v r' := by
  have more := Heap.extends_retain i.heap r
  cases v with
  | array items =>
    obtain ⟨places, list, all⟩ := holds
    obtain ⟨h, extended, yields⟩ := yields_copyList_list list all.exists_has
    refine ⟨_, _, yields, places, ?_, ?_⟩
    · exact Heap.has_alloc h _
    · exact all.extends (extended.trans (Heap.extends_alloc h _))
  | map entries =>
    have kept := Heap.Holds.extends more _ r holds
    obtain ⟨places, dict, all⟩ := holds
    exact ⟨r, _, yields_copyList_other dict (by simp), kept⟩
  | _ => exact ⟨r, _, yields_copyList_other holds (by simp), more.has holds⟩

end

end Computation

/-- A library with nothing but a module that copies lists. -/
def Library.copying : Library := [{
  name := "copy"
  content := .ok [("deepcopy", .function (.native fun
    | [x], _ => Computation.copyList x
    | _, _ => Computation.typeError "deepcopy() takes one argument"))] }]

namespace Library

/-- The heap once the module was imported. -/
def imported : Heap :=
  ((Heap.initial.alloc (.function ⟨"copy", "deepcopy"⟩)).2.alloc (.module "copy" [("deepcopy", 3)])).2.retain 4

/-- Nothing in it has a finalizer. -/
theorem finalizer?_imported (r : Ref) : imported.finalizer? r = none := by
  have initial : Heap.initial.finalizer? r = none := by
    rcases r with - | - | - | r <;> rfl
  have added : Heap.initial.AddsNoClass imported :=
    ((Heap.addsNoClass_alloc _ rfl).trans (Heap.addsNoClass_alloc _ rfl)).trans (Heap.addsNoClass_retain _ 4)
  exact added.finalizer? initial

theorem importModule_copying {i : Interpreter} (start : i.heap = .initial) (empty : i.modules = []) :
    (copying.importModule "copy").run i = (.ok 4, { i with heap := imported, modules := [("copy", 4)] }) := by
  obtain ⟨heap, modules, searchPath, files, directories, services⟩ := i
  cases start
  cases empty
  unfold importModule
  rw [if_neg (by decide), importNamed]
  rfl

theorem yields_importModule_copying {i : Interpreter} (start : i.heap = .initial) (empty : i.modules = []) :
    (copying.importModule "copy").Yields i 4 { i with heap := imported, modules := [("copy", 4)] } := by
  refine ⟨importModule_copying start empty, fun owes => ?_, fun singles => ?_⟩
  · rw [start] at owes
    have function : (Heap.initial.alloc (.function ⟨"copy", "deepcopy"⟩)).2.Owes (3 :: _) := Heap.Owes.alloc owes
    have module : ((Heap.initial.alloc (.function ⟨"copy", "deepcopy"⟩)).2.alloc
        (.module "copy" [("deepcopy", 3)])).2.Owes (4 :: _) := Heap.Owes.alloc function
    have shared := module.retain (r := 4) (o := .module "copy" [("deepcopy", 3)]) rfl
    exact Heap.Owes.of_append (show imported.Owes ([4] ++ 4 :: _) from shared)
  · rw [start] at singles
    have grown := ((Heap.extends_alloc .initial (.function ⟨"copy", "deepcopy"⟩)).trans
      (Heap.extends_alloc _ (.module "copy" [("deepcopy", 3)]))).trans (Heap.extends_retain _ 4)
    exact grown.hasSingletons singles

theorem yields_getAttribute_copying {i : Interpreter} (start : i.heap = imported) :
    (copying.getAttribute 4 "deepcopy").Yields i 3 { i with heap := imported.retain 3 } := by
  obtain ⟨heap, modules, searchPath, files, directories, services⟩ := i
  cases start
  exact ⟨rfl, fun owes => owes.retain (o := .function ⟨"copy", "deepcopy"⟩) rfl,
    (Heap.extends_retain imported 3).hasSingletons⟩

/-- To call the function is to run its code. -/
theorem run_call_copying {i : Interpreter} (has : i.heap.Has 3 (.function ⟨"copy", "deepcopy"⟩)) (args : List Ref)
    (named : List (String × Ref)) : (copying.call 3 args named).run i =
      (match args, named with
        | [x], _ => Computation.copyList x
        | _, _ => Computation.typeError "deepcopy() takes one argument").run i := by
  have looked : (Computation.look 3).run i = (.ok (.function ⟨"copy", "deepcopy"⟩), i) := by
    rw [Computation.run_look, has.object]
  unfold call
  rw [run_bind, looked]
  dsimp only
  unfold invokeAt
  rw [run_bind, looked]
  rfl

/-- What a call of the function gives is a new reference. -/
theorem yields_call_copying {i i' : Interpreter} {args : List Ref} {named : List (String × Ref)} {r : Ref}
    (has : i.heap.Has 3 (.function ⟨"copy", "deepcopy"⟩)) (owes : i.heap.Owes [])
    (held : ∀ a ∈ args, 0 < i.heap.count a) (run : (copying.call 3 args named).run i = (.ok r, i')) :
    (copying.call 3 args named).Yields i r i' := by
  have called := run_call_copying has args named
  rw [run] at called
  rcases args with - | ⟨x, - | ⟨y, args⟩⟩
  · cases called
  · obtain ⟨r', j, yields⟩ := Computation.exists_yields_copyList owes (held x List.mem_cons_self)
    have copied : (Except.ok r, i') = (.ok r', j) := called.trans yields.run
    cases copied
    exact ⟨run, yields.owes, yields.singles⟩
  · cases called

/-- The function is the only one of the library. -/
theorem routine?_copying {name : RoutineName} {r : Routine} (found : copying.routine? name = some r) :
    r = .native fun
      | [x], _ => Computation.copyList x
      | _, _ => Computation.typeError "deepcopy() takes one argument" := by
  unfold routine? at found
  obtain ⟨source, named, looked⟩ := Option.bind_eq_some_iff.1 found
  cases List.mem_singleton.1 (List.mem_of_find?_eq_some named)
  obtain ⟨before, after, routines, -⟩ := List.lookup_eq_some_iff.1 looked
  have listed : (name.qualified, r) ∈ before ++ (name.qualified, r) :: after := by simp
  rw [← routines] at listed
  exact congrArg Prod.snd (List.mem_singleton.1 listed)

/-- It leaves the counts right. -/
theorem routinesAccount_copying : copying.RoutinesAccount := by
  intro name args named i held _ refs owes
  unfold invoke
  cases found : copying.routine? name with
  | none => exact owes
  | some r =>
    obtain rfl := routine?_copying found
    rcases args with - | ⟨x, - | ⟨y, args⟩⟩
    · exact owes
    · obtain ⟨r', j, yields⟩ := Computation.exists_yields_copyList owes.forget (held x List.mem_cons_self)
      have called : (Computation.copyList x).run i = (.ok r', j) := yields.run
      dsimp only
      rw [called]
      exact yields.owes owes
    · exact owes

end Library

end InterpreterHost
