import InterpreterHost.Proofs.Heap.Release

/-!
# Heaps that grow

Making objects leaves those that there are, and giving up the references to new objects undoes it.

## Main definitions

* `Heap.Has` — an object is at a place
* `Heap.HasSingletons` — the objects that there is one of each are there
* `Heap.Extends` — nothing is gone and nothing has changed, but for more references
* `Heap.Undone` — the heap is as it was, but for places that are gone

## Main statements

* `Heap.extends_alloc`, `Heap.has_new`, `Heap.less_alloc` — a new object
* `Heap.Undone.releaseAll` — what is undone stays undone
-/

namespace InterpreterHost.Heap

/-- An object is at a place. -/
def Has (h : Heap) (r : Ref) (o : Object) : Prop := h.cells[r]?.map Cell.object = some o

theorem Has.object {h : Heap} {r : Ref} {o : Object} (has : h.Has r o) : h.object r = o := by
  rw [Heap.object, has, Option.getD_some]

/-- The objects that there is one of each are there, with a reference that the interpreter holds. -/
def HasSingletons (h : Heap) : Prop :=
  ∀ o r, singleton? o = some r → h.Has r o ∧ 0 < h.count r

/-- There are three of them. -/
theorem HasSingletons.of_three {h : Heap} (none : h.Has noneRef .none ∧ 0 < h.count noneRef)
    (yes : h.Has trueRef (.bool true) ∧ 0 < h.count trueRef)
    (no : h.Has falseRef (.bool false) ∧ 0 < h.count falseRef) : h.HasSingletons := by
  intro o r single
  cases o with
  | none =>
    cases single
    exact none
  | bool b =>
    cases b <;> cases single
    · exact no
    · exact yes
  | _ => cases single

theorem hasSingletons_initial : initial.HasSingletons :=
  .of_three ⟨rfl, by decide⟩ ⟨rfl, by decide⟩ ⟨rfl, by decide⟩

/-! ## More objects -/

/-- Nothing is gone and nothing has changed, but for more references. -/
structure Extends (h h' : Heap) : Prop where
  has : ∀ {r o}, h.Has r o → h'.Has r o
  count : ∀ r, h.count r ≤ h'.count r

namespace Extends

theorem refl (h : Heap) : h.Extends h := ⟨id, fun _ => Nat.le_refl _⟩

theorem trans {h₁ h₂ h₃ : Heap} (first : h₁.Extends h₂) (second : h₂.Extends h₃) : h₁.Extends h₃ :=
  ⟨second.has ∘ first.has, fun r => Nat.le_trans (first.count r) (second.count r)⟩

theorem hasSingletons {h h' : Heap} (extended : h.Extends h') (singles : h.HasSingletons) :
    h'.HasSingletons := by
  intro o r single
  obtain ⟨has, held⟩ := singles o r single
  exact ⟨extended.has has, Nat.lt_of_lt_of_le held (extended.count r)⟩

end Extends

theorem cells_retain (h : Heap) (r i : Ref) :
    (h.retain r).cells[i]? =
      if r = i then h.cells[i]?.map (fun c => { c with count := c.count + 1 }) else h.cells[i]? := by
  rw [retain, Array.getElem?_modify]

theorem extends_retain (h : Heap) (r : Ref) : h.Extends (h.retain r) := by
  refine ⟨fun {i o} has => ?_, fun i => ?_⟩
  · unfold Has at has ⊢
    rw [cells_retain]
    split
    · rw [Option.map_map, ← has]
      rfl
    · exact has
  · unfold count
    rw [cells_retain]
    split
    · cases h.cells[i]? with
      | none => exact Nat.le_refl _
      | some c => exact Nat.le_succ c.count
    · exact Nat.le_refl _

theorem cells_alloc (h : Heap) (o : Object) (i : Nat) :
    (h.alloc o).2.cells[i]? = if i = h.cells.size then some ⟨1, o⟩ else h.cells[i]? :=
  Array.getElem?_push

theorem extends_alloc (h : Heap) (o : Object) : h.Extends (h.alloc o).2 := by
  have missing : h.cells[h.cells.size]? = none := Array.getElem?_eq_none (Nat.le_refl _)
  refine ⟨fun {i o'} has => ?_, fun i => ?_⟩
  · unfold Has at has ⊢
    rw [cells_alloc]
    split
    · next fresh =>
      rw [fresh, missing] at has
      cases has
    · exact has
  · unfold count
    rw [cells_alloc]
    split
    · next fresh =>
      rw [fresh, missing]
      exact Nat.zero_le _
    · exact Nat.le_refl _

theorem has_alloc (h : Heap) (o : Object) : (h.alloc o).2.Has (h.alloc o).1 o := by
  simp [Has, alloc]

/-- A new object is there. -/
theorem has_new {h : Heap} (singles : h.HasSingletons) (o : Object) :
    (h.new o).2.Has (h.new o).1 o := by
  unfold new
  split
  · next r single => exact (extends_retain h r).has (singles o r single).1
  · exact has_alloc h o

/-! ## Undoing -/

/-- The heap is as it was, but for places that are gone. -/
def Undone (h h' : Heap) : Prop := ∃ n, h' = h.padded n

namespace Undone

variable {h h' h'' : Heap}

theorem padded_zero (h : Heap) : h.padded 0 = h := by simp [padded]

theorem refl (h : Heap) : h.Undone h := ⟨0, (padded_zero h).symm⟩

theorem trans (first : h.Undone h') (second : h'.Undone h'') : h.Undone h'' := by
  obtain ⟨m, rfl⟩ := first
  obtain ⟨n, rfl⟩ := second
  exact ⟨m + n, padded_padded h m n⟩

/-- What is undone stays undone if references are given up. -/
theorem releaseAll (undone : h.Undone h') (refs : List Ref) :
    (h.releaseAll refs).Undone (h'.releaseAll refs) := by
  obtain ⟨n, rfl⟩ := undone
  exact ⟨n, releaseAll_padded h n refs⟩

end Undone

/-- To give up a further reference undoes it. -/
theorem less_retain {h : Heap} {r : Ref} (held : 0 < h.count r) :
    (h.retain r).less r = h ∧ (h.retain r).freed r = [] := by
  unfold count at held
  cases cell : h.cells[r]? with
  | none => simp [cell] at held
  | some c =>
    have some' : c.count ≠ 0 := by
      rw [cell] at held
      exact Nat.ne_of_gt held
    have retained : (h.retain r).cells[r]? = some { c with count := c.count + 1 } := by
      rw [cells_retain, if_pos rfl, cell, Option.map_some]
    refine ⟨ext_cells fun i => ?_, ?_⟩
    · rw [cells_less]
      split
      · next equal =>
        rw [← equal, retained, cell]
        simp [Cell.less, some']
      · next other => rw [cells_retain, if_neg other]
    · simp [freed, retained, Cell.freed, some']

theorem less_alloc (h : Heap) (o : Object) :
    (h.alloc o).2.less (h.alloc o).1 = h.padded 1 ∧ (h.alloc o).2.freed (h.alloc o).1 = o.children := by
  have cell : (h.alloc o).2.cells[(h.alloc o).1]? = some ⟨1, o⟩ := by
    rw [cells_alloc]
    exact if_pos rfl
  refine ⟨ext_cells fun i => ?_, by simp [freed, cell, Cell.freed]⟩
  rw [cells_less, cells_padded]
  split
  · next equal =>
    have size : h.cells.size = i := equal
    simp [← equal, Cell.less, alloc]
  · next other =>
    have other' : ¬ i = h.cells.size := fun same => other same.symm
    rw [cells_alloc, if_neg other']
    split
    · rfl
    · next outside =>
      have beyond : ¬ i < h.cells.size + 1 := by omega
      rw [if_neg beyond, Array.getElem?_eq_none (Nat.le_of_not_lt outside)]

end InterpreterHost.Heap
