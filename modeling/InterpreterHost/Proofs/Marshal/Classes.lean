import InterpreterHost.Marshal.ToObject
import InterpreterHost.Proofs.Heap.Finalization

/-!
# Objects of values have no classes

A value becomes objects of types that are built in.  Whether or not all of them can be made, no class is made and
no instance of one, so that nothing has a finalizer afterwards that had none before.

## Main statements

* `Slot.addsNoClass_settle` — to put an object into a container makes no class
* `Heap.addsNoClass_place` — neither does making the objects of a value
* `Heap.addsNoClass_placeArguments` — nor making a tuple of them
-/

namespace InterpreterHost

namespace Heap

variable {h h' : Heap}

theorem addsNoClass_release (h : Heap) (r : Ref) : h.AddsNoClass (h.release r) := addsNoClass_releaseAll h [r]

theorem addsNoClass_tryNew (h : Heap) {o : Object} (plain : o.isClassed = false) (memory : Memory) :
    h.AddsNoClass (h.tryNew o memory).2 := by
  unfold tryNew
  split
  · exact addsNoClass_retain h _
  · split
    · exact addsNoClass_alloc h plain
    · exact .refl h

theorem addsNoClass_tryNewPlaces (h : Heap) (kind : SequenceKind) (length : Nat) (memory : Memory) :
    h.AddsNoClass (h.tryNewPlaces kind length memory).2 :=
  addsNoClass_tryNew h (Object.isClassed_ofPlaces kind _) memory

end Heap

/-! ## Places in containers -/

namespace Slot

open Heap

variable {h : Heap} {container item : Ref} {memory : Memory}

theorem addsNoClass_replace (h : Heap) (container item : Ref) (kind : SequenceKind) (places : List (Option Ref))
    (index : Nat) : h.AddsNoClass (replace h container item kind places index).2 := by
  unfold replace
  split
  · exact (addsNoClass_setObject h _ (Object.isClassed_ofPlaces kind _)).trans (addsNoClass_releaseAll _ _)
  · exact addsNoClass_release h item

theorem addsNoClass_bind (h : Heap) (container key item : Ref) (text : CodePoints) (memory : Memory) :
    h.AddsNoClass (bind h container key item text memory).2 := by
  unfold bind
  split
  · split
    · exact ((addsNoClass_retain h item).trans (addsNoClass_setObject _ _ rfl)).trans (addsNoClass_release _ _)
    · split
      · exact ((addsNoClass_retain h key).trans (addsNoClass_retain _ item)).trans (addsNoClass_setObject _ _ rfl)
      · exact .refl h
  · exact .refl h

theorem addsNoClass_put (h : Heap) (container item : Ref) (slot : Slot) (memory : Memory) :
    h.AddsNoClass (put h container item slot memory).2 := by
  cases slot with
  | listItem index =>
    dsimp only [put]
    split
    · exact addsNoClass_replace h container item .list _ index
    · exact addsNoClass_release h item
  | listEnd =>
    dsimp only [put]
    split
    · split
      · exact (addsNoClass_retain h item).trans (addsNoClass_setObject _ _ (Object.isClassed_ofPlaces .list _))
      · exact .refl h
    · exact .refl h
  | tupleItem index =>
    dsimp only [put]
    split
    · split
      · exact addsNoClass_replace h container item .tuple _ index
      · exact addsNoClass_release h item
    · exact addsNoClass_release h item
  | key name =>
    have made := addsNoClass_tryNew h (o := .str (.ofString name)) rfl memory
    dsimp only [put]
    generalize h.tryNew (.str (.ofString name)) memory = result at made
    rcases result with ⟨e | k, h₁⟩
    · exact made
    · exact (made.trans (addsNoClass_bind h₁ container k item _ memory)).trans (addsNoClass_release _ k)

/-- To put an object into a container makes no class. -/
theorem addsNoClass_settle (h : Heap) (container item : Ref) (slot : Slot) (memory : Memory) :
    h.AddsNoClass (settle h container item slot memory).2 := by
  have put := addsNoClass_put h container item slot memory
  unfold settle
  dsimp only
  split
  · exact put.trans (addsNoClass_release _ item)
  · exact put

end Slot

/-! ## Values -/

namespace Heap

theorem addsNoClass_filled {h : Heap} {container : Ref} {result : Except Raised Unit × Heap}
    (filling : h.AddsNoClass result.2) : h.AddsNoClass (filled container result).2 := by
  rcases result with ⟨e | ⟨⟩, h'⟩
  · exact filling.trans (addsNoClass_release h' container)
  · exact filling

mutual

/-- To make the objects of a value makes no class, even if some of them cannot be made. -/
theorem addsNoClass_place (h : Heap) (memory : Memory) : ∀ v : Value, h.AddsNoClass (place h memory v).2
  | .null | .bool _ | .int _ | .float _ | .string _ | .blob _ => by
    rw [place]
    exact addsNoClass_tryNew h rfl memory
  | .timestamp t => by
    rw [place]
    split
    · exact addsNoClass_tryNew h rfl memory
    · exact .refl h
  | .array items => by
    have made := addsNoClass_tryNewPlaces h .list items.length memory
    rw [place]
    generalize h.tryNewPlaces .list items.length memory = result at made
    rcases result with ⟨e | list, h₁⟩
    · exact made
    · exact made.trans (addsNoClass_filled (addsNoClass_fill h₁ memory .list list 0 items))
  | .map entries => by
    have made := addsNoClass_tryNew h (o := .dict []) rfl memory
    rw [place]
    generalize h.tryNew (.dict []) memory = result at made
    rcases result with ⟨e | dict, h₁⟩
    · exact made
    · exact made.trans (addsNoClass_filled (addsNoClass_fillEntries h₁ memory dict entries))

theorem addsNoClass_fill (h : Heap) (memory : Memory) (kind : SequenceKind) (container : Ref) (index : Nat) :
    ∀ items : List Value, h.AddsNoClass (fill h memory kind container index items).2
  | [] => by
    rw [fill]
    exact .refl h
  | v :: items => by
    have made := addsNoClass_place h memory v
    rw [fill]
    generalize place h memory v = result at made
    rcases result with ⟨e | r, h₁⟩
    · exact made
    · have settled := Slot.addsNoClass_settle h₁ container r (Slot.itemOf kind index) memory
      dsimp only
      generalize (Slot.itemOf kind index).settle h₁ container r memory = result at settled
      rcases result with ⟨e | ⟨⟩, h₂⟩
      · exact made.trans settled
      · exact (made.trans settled).trans (addsNoClass_fill h₂ memory kind container (index + 1) items)

theorem addsNoClass_fillEntries (h : Heap) (memory : Memory) (container : Ref) :
    ∀ entries : List (String × Value), h.AddsNoClass (fillEntries h memory container entries).2
  | [] => by
    rw [fillEntries]
    exact .refl h
  | (k, v) :: entries => by
    have made := addsNoClass_place h memory v
    rw [fillEntries]
    generalize place h memory v = result at made
    rcases result with ⟨e | r, h₁⟩
    · exact made
    · have settled := Slot.addsNoClass_settle h₁ container r (.key k) memory
      dsimp only
      generalize (Slot.key k).settle h₁ container r memory = result at settled
      rcases result with ⟨e | ⟨⟩, h₂⟩
      · exact made.trans settled
      · exact (made.trans settled).trans (addsNoClass_fillEntries h₂ memory container entries)

end

/-- To make a tuple of the objects of values makes no class. -/
theorem addsNoClass_placeArguments (h : Heap) (memory : Memory) (args : List Value) :
    h.AddsNoClass (placeArguments h memory args).2 := by
  have made := addsNoClass_tryNewPlaces h .tuple args.length memory
  unfold placeArguments
  generalize h.tryNewPlaces .tuple args.length memory = result at made
  rcases result with ⟨e | tuple, h₁⟩
  · exact made
  · exact made.trans (addsNoClass_filled (addsNoClass_fill h₁ memory .tuple tuple 0 args))

end Heap

end InterpreterHost
