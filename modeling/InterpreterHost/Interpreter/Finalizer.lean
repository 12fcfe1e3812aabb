import InterpreterHost.Interpreter.Call

/-!
# Objects that go

An object goes with the last reference to it.  If its class has a finalizer that runs first, while the object is
still there, and it may do anything: the object stays if the finalizer has made another reference to it.

## Main definitions

* `Heap.finalizer?` — the function that runs before an object goes
* `Heap.releaseUntil` — give up references up to an object that is to be finalized
* `Library.letGo` — give up references, with all finalizers that run by that

## Design notes

`Heap.releaseAll` says what becomes of counts where no finalizer runs.  Code of the library gives up references of
its own by that, and what finalizers do then is a part of what that code does.  What a call of the host lets go of
is let go of by `Library.letGo`.
-/

namespace InterpreterHost

namespace Heap

/-- The function that runs before an object goes, if its class has one. -/
def finalizer? (h : Heap) (r : Ref) : Option Ref :=
  match h.object r with
  | .instanceOf c _ => h.classAttribute? c "__del__"
  | _ => none

/-- The finalizer that is to run before an object goes, of which no finalizer has run before. -/
def due? (h : Heap) (finalized : List Ref) (r : Ref) : Option Ref :=
  if finalized.contains r then none else h.finalizer? r

/-- Give up one reference to each of the objects, up to one that would go and has a finalizer that is to run; this
one, the finalizer and the references that are still to be given up. -/
def releaseUntil (h : Heap) (finalized : List Ref) : List Ref → Heap × Option (Ref × Ref × List Ref)
  | [] => (h, none)
  | r :: rest =>
    match _found : h.cells[r]? with
    | none => releaseUntil h finalized rest
    | some c =>
      if c.count = 0 then releaseUntil h finalized rest
      else if c.count = 1 then
        match h.due? finalized r with
        | some f => (h, some (r, f, rest))
        | none => releaseUntil (h.clear r) finalized (c.object.children ++ rest)
      else releaseUntil (h.decrement r) finalized rest
termination_by refs => h.fanout + refs.length
decreasing_by
  · simp
  · simp
  · have := fanout_clear _found
    simp only [List.length_append, List.length_cons]
    omega
  · have := fanout_decrement _found
    simp only [List.length_cons]
    omega

end Heap

namespace Library

/-- Run a finalizer.  Nobody asks for its result, and nobody is told of an exception that it raises. -/
def finalize (library : Library) (finalizer r : Ref) (i : Interpreter) : Interpreter :=
  match (library.call finalizer [r] []).run i with
  | (.ok result, i) => { i with heap := i.heap.release result }
  | (.error _, i) => i

/-- Give up one reference to each of the objects.  An object that would go by that is finalized first, which
happens to no object twice and `n` times at most. -/
def letGoWithin (library : Library) : Nat → List Ref → Interpreter → List Ref → Interpreter
  | 0, _, i, refs => { i with heap := i.heap.releaseAll refs }
  | n + 1, finalized, i, refs =>
    match i.heap.releaseUntil finalized refs with
    | (heap, none) => { i with heap }
    | (heap, some (r, f, rest)) =>
      letGoWithin library n (r :: finalized) (library.finalize f r { i with heap }) (r :: rest)

/-- Give up one reference to each of the objects.  As many finalizers run as there are objects, at most. -/
def letGo (library : Library) (i : Interpreter) (refs : List Ref) : Interpreter :=
  library.letGoWithin i.heap.cells.size [] i refs

end Library

end InterpreterHost
