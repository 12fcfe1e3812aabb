import InterpreterHost.Interpreter.Object

/-!
# The heap

The heap holds the objects of the interpreter and, for each of them, how many references to it there are.  An
object whose last reference is given up goes, and gives up the references that it holds itself.

## Main definitions

* `Heap` — objects with their counts
* `Heap.alloc` — a new object with one reference
* `Heap.retain`, `Heap.release` — one reference more, one reference less
* `Heap.Consistent` — the counts are what the objects and the references from outside add up to

## Design notes

A place is never used again.  An object that is gone leaves a cell behind whose count is zero and that refers to
nothing; to give up a reference to such a cell changes nothing.
-/

namespace InterpreterHost

/-- An object and the number of references to it. -/
structure Cell where
  count : Nat
  object : Object
deriving Repr, Inhabited

/-- Objects at their places. -/
structure Heap where
  cells : Array Cell
deriving Repr, Inhabited

namespace Heap

/-! ## Reading -/

/-- The object at a place; `none` where there is no object. -/
def object (h : Heap) (r : Ref) : Object := (h.cells[r]?.map Cell.object).getD .none

/-- The number of references to the object at a place. -/
def count (h : Heap) (r : Ref) : Nat := (h.cells[r]?.map Cell.count).getD 0

/-- The number of all references. -/
def total (h : Heap) : Nat := h.cells.toList.foldr (fun c n => c.count + n) 0

/-- The number of references that objects hold. -/
def fanout (h : Heap) : Nat := h.cells.toList.foldr (fun c n => c.object.children.length + n) 0

/-! ## Writing -/

/-- Put an object at the next place, with one reference to it. -/
def alloc (h : Heap) (o : Object) : Ref × Heap := (h.cells.size, ⟨h.cells.push ⟨1, o⟩⟩)

/-- Change the object at a place, not the references to it. -/
def setObject (h : Heap) (r : Ref) (o : Object) : Heap := ⟨h.cells.modify r ({ · with object := o })⟩

/-- One reference more. -/
def retain (h : Heap) (r : Ref) : Heap := ⟨h.cells.modify r fun c => { c with count := c.count + 1 }⟩

/-- One reference less, to an object that keeps others. -/
def decrement (h : Heap) (r : Ref) : Heap := ⟨h.cells.modify r fun c => { c with count := c.count - 1 }⟩

/-- The last reference less: the object is gone. -/
def clear (h : Heap) (r : Ref) : Heap := ⟨h.cells.modify r fun _ => ⟨0, .none⟩⟩

/-! ## Giving up references -/

/-- A change of one cell changes a sum over all cells by what it changes there. -/
theorem sum_modify (weight : Cell → Nat) {cells : List Cell} {r : Nat} {f : Cell → Cell} {c : Cell}
    (hc : cells[r]? = some c) :
    (cells.modify r f).foldr (fun c n => weight c + n) 0 + weight c =
      cells.foldr (fun c n => weight c + n) 0 + weight (f c) := by
  induction cells generalizing r with
  | nil => simp at hc
  | cons d cells ih =>
    cases r with
    | zero =>
      simp only [List.getElem?_cons_zero, Option.some.injEq] at hc
      subst hc
      simp only [List.modify_zero_cons, List.foldr_cons]
      omega
    | succ r =>
      simp only [List.getElem?_cons_succ] at hc
      simp only [List.modify_succ_cons, List.foldr_cons]
      have := ih hc
      omega

theorem total_modify_lt {h : Heap} {r : Ref} {f : Cell → Cell} {c : Cell} (hc : h.cells[r]? = some c)
    (hf : (f c).count < c.count) : (⟨h.cells.modify r f⟩ : Heap).total < h.total := by
  have cell : h.cells.toList[r]? = some c := by simpa using hc
  have sum := sum_modify Cell.count (f := f) cell
  simp only [total, Array.toList_modify]
  omega

theorem fanout_modify {h : Heap} {r : Ref} (f : Cell → Cell) {c : Cell} (hc : h.cells[r]? = some c) :
    (⟨h.cells.modify r f⟩ : Heap).fanout + c.object.children.length =
      h.fanout + (f c).object.children.length := by
  simp only [fanout, Array.toList_modify]
  exact sum_modify (fun c => c.object.children.length) (by simpa using hc)

theorem fanout_clear {h : Heap} {r : Ref} {c : Cell} (hc : h.cells[r]? = some c) :
    (h.clear r).fanout + c.object.children.length = h.fanout :=
  fanout_modify _ hc

theorem fanout_decrement {h : Heap} {r : Ref} {c : Cell} (hc : h.cells[r]? = some c) :
    (h.decrement r).fanout = h.fanout :=
  Nat.add_right_cancel (fanout_modify _ hc)

/-- Give up one reference to each of the objects, and those that objects held which are gone by that. -/
def releaseAll (h : Heap) : List Ref → Heap
  | [] => h
  | r :: rest =>
    match _found : h.cells[r]? with
    | none => releaseAll h rest
    | some c =>
      if c.count = 0 then releaseAll h rest
      else if c.count = 1 then releaseAll (h.clear r) (c.object.children ++ rest)
      else releaseAll (h.decrement r) rest
termination_by refs => h.fanout + refs.length
decreasing_by
  · simp
  · simp
  · have := fanout_clear _found
    simp only [List.length_append, List.length_cons]
    omega
  · have := fanout_decrement _found
    simp only [List.length_cons]
    omega

/-- Give up one reference. -/
def release (h : Heap) (r : Ref) : Heap := h.releaseAll [r]

/-! ## The objects that there is one of each -/

def noneRef : Ref := 0
def trueRef : Ref := 1
def falseRef : Ref := 2

/-- The heap before anything is made: the three objects that there is one of each, held by the interpreter. -/
def initial : Heap := ⟨#[⟨1, .none⟩, ⟨1, .bool true⟩, ⟨1, .bool false⟩]⟩

/-- The place of an object that there is one of, if it is such an object. -/
def singleton? : Object → Option Ref
  | .none => some noneRef
  | .bool true => some trueRef
  | .bool false => some falseRef
  | _ => none

/-- A reference to an object: to a new one, or to the one that there is. -/
def new (h : Heap) (o : Object) : Ref × Heap :=
  match singleton? o with
  | some r => (r, h.retain r)
  | none => h.alloc o

/-! ## Accounting -/

/-- How often a place is referred to by the objects of the heap. -/
def references (h : Heap) (r : Ref) : Nat := h.cells.toList.foldr (fun c n => c.object.children.count r + n) 0

/-- The counts are what the objects and the references `outside` add up to, and what is gone refers to nothing. -/
def Consistent (h : Heap) (outside : Ref → Nat) : Prop :=
  (∀ r, h.count r = h.references r + outside r) ∧
    ∀ r, h.count r = 0 → h.object r = .none

end Heap

end InterpreterHost
