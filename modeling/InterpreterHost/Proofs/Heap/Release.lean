import InterpreterHost.Interpreter.Heap

/-!
# Giving up references

To give up a list of references is to give up the first, and then what that freed together with the
others.  Seen in these steps, the order does not matter, and neither do places that are gone.

## Main definitions

* `Heap.less`, `Heap.freed` — one reference less, and the references that the object held if it is gone
* `Heap.padded` — the heap with more places that are gone

## Main statements

* `Heap.releaseAll_cons` — giving up references step by step
* `Heap.releaseAll_append` — some references first, and others then
* `Heap.releaseAll_perm` — the order does not matter
* `Heap.releaseAll_padded` — places that are gone do not matter
* `Heap.count_release`, `Heap.count_retain` — to give up a reference is to have one less, to take one is to
  have one more
-/

namespace InterpreterHost

/-! ## Steps -/

/-- One reference less; without the last one the object is gone. -/
def Cell.less (c : Cell) : Cell :=
  if c.count = 0 then c
  else if c.count = 1 then ⟨0, .none⟩
  else { c with count := c.count - 1 }

/-- What an object refers to that goes with its last reference. -/
def Cell.freed (c : Cell) : List Ref := if c.count = 1 then c.object.children else []

namespace Heap

/-- The heap with one reference less. -/
def less (h : Heap) (r : Ref) : Heap := ⟨h.cells.modify r Cell.less⟩

/-- What the object refers to that goes with the last reference. -/
def freed (h : Heap) (r : Ref) : List Ref := (h.cells[r]?.map Cell.freed).getD []

/-- Heaps with the same cells are the same. -/
theorem ext_cells {h h' : Heap} (same : ∀ r : Nat, h.cells[r]? = h'.cells[r]?) : h = h' :=
  congrArg Heap.mk (Array.ext_getElem? same)

theorem cells_less (h : Heap) (r i : Ref) :
    (h.less r).cells[i]? = if r = i then h.cells[i]?.map Cell.less else h.cells[i]? := by
  rw [less, Array.getElem?_modify]

/-- Only what becomes of the cell at the place matters. -/
theorem less_eq {h : Heap} {r : Ref} {f : Cell → Cell} (same : ∀ c, h.cells[r]? = some c → c.less = f c) :
    h.less r = ⟨h.cells.modify r f⟩ := by
  refine ext_cells ?_
  intro i
  rw [cells_less, Array.getElem?_modify]
  split
  · next equal =>
    subst equal
    cases cell : h.cells[r]? with
    | none => rfl
    | some c => exact congrArg some (same c cell)
  · rfl

/-- Where there is no reference, there is none to be given up. -/
theorem less_of_count_eq_zero {h : Heap} {r : Ref} (gone : h.count r = 0) :
    h.less r = h ∧ h.freed r = [] := by
  unfold count at gone
  cases cell : h.cells[r]? with
  | none =>
    refine ⟨ext_cells fun i => ?_, by simp [freed, cell]⟩
    rw [cells_less]
    split
    · next equal => rw [← equal, cell, Option.map_none]
    · rfl
  | some c =>
    have zero : c.count = 0 := by simpa [cell] using gone
    refine ⟨ext_cells fun i => ?_, by simp [freed, Cell.freed, cell, zero]⟩
    rw [cells_less]
    split
    · next equal => simp [← equal, cell, Cell.less, zero]
    · rfl

theorem less_of_last {h : Heap} {r : Ref} {c : Cell} (cell : h.cells[r]? = some c) (last : c.count = 1) :
    h.less r = h.clear r ∧ h.freed r = c.object.children := by
  refine ⟨less_eq fun d found => ?_, ?_⟩
  · obtain rfl : c = d := Option.some.inj (cell.symm.trans found)
    rw [Cell.less, if_neg (by omega), if_pos last]
  · rw [freed, cell, Option.map_some, Option.getD_some, Cell.freed, if_pos last]

theorem less_of_many {h : Heap} {r : Ref} {c : Cell} (cell : h.cells[r]? = some c) (some' : c.count ≠ 0)
    (many : c.count ≠ 1) : h.less r = h.decrement r ∧ h.freed r = [] := by
  refine ⟨less_eq fun d found => ?_, ?_⟩
  · obtain rfl : c = d := Option.some.inj (cell.symm.trans found)
    rw [Cell.less, if_neg some', if_neg many]
  · rw [freed, cell, Option.map_some, Option.getD_some, Cell.freed, if_neg many]

/-- References are given up one by one. -/
theorem releaseAll_cons (h : Heap) (r : Ref) (rest : List Ref) :
    h.releaseAll (r :: rest) = (h.less r).releaseAll (h.freed r ++ rest) := by
  rw [releaseAll]
  split
  · next cell =>
    obtain ⟨same, nothing⟩ := less_of_count_eq_zero (h := h) (r := r) (by simp [count, cell])
    rw [same, nothing, List.nil_append]
  · next c cell =>
    split
    · next zero =>
      obtain ⟨same, nothing⟩ := less_of_count_eq_zero (h := h) (r := r) (by simp [count, cell, zero])
      rw [same, nothing, List.nil_append]
    · next some' =>
      split
      · next one =>
        obtain ⟨cleared, children⟩ := less_of_last cell one
        rw [cleared, children]
      · next many =>
        obtain ⟨decremented, nothing⟩ := less_of_many cell some' many
        rw [decremented, nothing, List.nil_append]

/-- One reference less is less in total, unless there was none: then nothing changes. -/
theorem total_less (h : Heap) (r : Ref) :
    (h.less r).total < h.total ∨ h.less r = h ∧ h.freed r = [] := by
  by_cases gone : h.count r = 0
  · exact .inr (less_of_count_eq_zero gone)
  · left
    unfold count at gone
    cases cell : h.cells[r]? with
    | none => simp [cell] at gone
    | some c =>
      have some' : c.count ≠ 0 := by simpa [cell] using gone
      refine total_modify_lt cell ?_
      rw [Cell.less, if_neg some']
      split
      · exact Nat.pos_of_ne_zero some'
      · exact Nat.sub_one_lt some'

/-- What holds of a heap from which nothing is to be given up, and before a step if it holds after
it, holds always. -/
theorem releaseAll_induction {motive : Heap → List Ref → Prop} (nil : ∀ h, motive h [])
    (cons : ∀ h r rest, motive (h.less r) (h.freed r ++ rest) → motive h (r :: rest)) :
    ∀ h refs, motive h refs
  | h, [] => nil h
  | h, r :: rest => cons h r rest (releaseAll_induction nil cons (h.less r) (h.freed r ++ rest))
termination_by h refs => (h.total, refs.length)
decreasing_by
  rcases total_less h r with fewer | ⟨same, nothing⟩
  · exact Prod.Lex.left _ _ fewer
  · rw [same, nothing]
    exact Prod.Lex.right _ (Nat.lt_succ_self _)

theorem releaseAll_append (h : Heap) (refs refs' : List Ref) :
    h.releaseAll (refs ++ refs') = (h.releaseAll refs).releaseAll refs' := by
  induction h, refs using releaseAll_induction with
  | nil h => rw [List.nil_append, releaseAll]
  | cons h r rest ih =>
    rw [List.cons_append, releaseAll_cons, releaseAll_cons, ← ih, List.append_assoc]

/-! ## The order -/

theorem freed_less {r s : Ref} (h : Heap) (other : r ≠ s) : (h.less r).freed s = h.freed s := by
  rw [freed, cells_less, if_neg other, freed]

/-- Two references are given up in either order. -/
theorem less_comm (h : Heap) (r s : Ref) : (h.less r).less s = (h.less s).less r := by
  refine ext_cells ?_
  intro i
  simp only [cells_less]
  split
  · split <;> rfl
  · split <;> rfl

/-- Two references are given up one after the other, if the order does not matter from then on. -/
theorem releaseAll_cons_cons {h : Heap} {r s : Ref} (other : r ≠ s) (rest : List Ref)
    (perm : (h.less r).total < h.total → ∀ refs refs' : List Ref, refs.Perm refs' →
      (h.less r).releaseAll refs = (h.less r).releaseAll refs') :
    h.releaseAll (r :: s :: rest) =
      ((h.less r).less s).releaseAll (h.freed s ++ (h.freed r ++ rest)) := by
  have moved : (h.less r).releaseAll (h.freed r ++ s :: rest) =
      (h.less r).releaseAll (s :: (h.freed r ++ rest)) := by
    rcases total_less h r with fewer | ⟨-, nothing⟩
    · exact perm fewer _ _ List.perm_middle
    · rw [nothing, List.nil_append, List.nil_append]
  rw [releaseAll_cons, moved, releaseAll_cons, freed_less h other]

/-- The order in which references are given up does not matter. -/
theorem releaseAll_perm (h : Heap) {refs refs' : List Ref} (perm : refs.Perm refs') :
    h.releaseAll refs = h.releaseAll refs' := by
  -- Each reference that is really given up makes the total smaller.
  induction total : h.total using Nat.strongRecOn generalizing h refs refs' with
  | ind n smaller =>
    have after (r : Ref) (fewer : (h.less r).total < h.total) (refs refs' : List Ref)
        (perm : refs.Perm refs') : (h.less r).releaseAll refs = (h.less r).releaseAll refs' :=
      smaller _ (total ▸ fewer) (h.less r) perm rfl
    induction perm with
    | nil => rfl
    | @cons r refs refs' perm ih =>
      rw [releaseAll_cons, releaseAll_cons]
      rcases total_less h r with fewer | ⟨same, nothing⟩
      · exact after r fewer _ _ (perm.append_left _)
      · rw [same, nothing]
        exact ih
    | swap s r rest =>
      -- Either goes first, and what both have freed is given up after them.
      by_cases equal : r = s
      · rw [equal]
      · have other : s ≠ r := fun same => equal same.symm
        rw [releaseAll_cons_cons equal rest (after r), releaseAll_cons_cons other rest (after s),
          less_comm h s r]
        have perm : (h.freed s ++ (h.freed r ++ rest)).Perm (h.freed r ++ (h.freed s ++ rest)) := by
          rw [← List.append_assoc, ← List.append_assoc]
          exact List.perm_append_comm.append_right rest
        rcases total_less h r with fewer | ⟨-, nothing⟩
        · have fewer' : ((h.less r).less s).total < n := by
            rcases total_less (h.less r) s with fewest | ⟨same, -⟩
            · omega
            · rw [same]
              omega
          exact smaller _ fewer' _ perm rfl
        · rw [nothing, List.nil_append, List.nil_append]
    | trans _ _ ih ih' => exact ih.trans ih'

/-! ## Places that are gone -/

/-- The heap with more places that are gone. -/
def padded (h : Heap) (n : Nat) : Heap := ⟨h.cells ++ Array.replicate n ⟨0, .none⟩⟩

theorem padded_padded (h : Heap) (m n : Nat) : (h.padded m).padded n = h.padded (m + n) := by
  simp [padded, Array.append_assoc, Array.replicate_append_replicate]

theorem cells_padded (h : Heap) (n i : Nat) :
    (h.padded n).cells[i]? =
      if i < h.cells.size then h.cells[i]? else if i < h.cells.size + n then some ⟨0, .none⟩ else none := by
  rw [padded, Array.getElem?_append]
  split
  · rfl
  · next outside =>
    rw [Array.getElem?_replicate]
    have shift : i - h.cells.size < n ↔ i < h.cells.size + n := by omega
    simp only [shift]

theorem less_padded (h : Heap) (n : Nat) (r : Ref) : (h.padded n).less r = (h.less r).padded n := by
  have size : (h.less r).cells.size = h.cells.size := Array.size_modify
  refine ext_cells ?_
  intro i
  rw [cells_less, cells_padded, cells_padded, size, cells_less]
  split
  · split
    · rfl
    · split <;> rfl
  · rfl

theorem freed_padded (h : Heap) (n : Nat) (r : Ref) : (h.padded n).freed r = h.freed r := by
  rw [freed, cells_padded, freed]
  split
  · rfl
  · next outside =>
    rw [Array.getElem?_eq_none (Nat.le_of_not_lt outside)]
    split <;> rfl

/-- Places that are gone do not matter when references are given up. -/
theorem releaseAll_padded (h : Heap) (n : Nat) (refs : List Ref) :
    (h.padded n).releaseAll refs = (h.releaseAll refs).padded n := by
  induction h, refs using releaseAll_induction with
  | nil h => rw [releaseAll, releaseAll]
  | cons h r rest ih => rw [releaseAll_cons, releaseAll_cons, less_padded, freed_padded, ih]

/-! ## Counts -/

theorem count_less (h : Heap) (r i : Ref) : (h.less r).count i = if r = i then h.count i - 1 else h.count i := by
  unfold count
  rw [cells_less]
  split
  · cases h.cells[i]? with
    | none => rfl
    | some c =>
      change (c.less).count = c.count - 1
      unfold Cell.less
      split
      · omega
      · split
        · next one => rw [one]
        · rfl
  · rfl

/-- What is gone does not come back when references are given up. -/
theorem count_releaseAll_le (h : Heap) (refs : List Ref) (r : Ref) : (h.releaseAll refs).count r ≤ h.count r := by
  induction h, refs using releaseAll_induction with
  | nil h => simp only [releaseAll, Nat.le_refl]
  | cons h s rest ih =>
    rw [releaseAll_cons]
    refine Nat.le_trans ih ?_
    rw [count_less]
    split <;> omega

/-- To give up a reference to an object is to have one less to it. -/
theorem count_release (h : Heap) (r : Ref) : (h.release r).count r = h.count r - 1 := by
  have step : h.release r = (h.less r).releaseAll (h.freed r) := by
    rw [release, releaseAll_cons, List.append_nil]
  have one : (h.less r).count r = h.count r - 1 := by rw [count_less, if_pos rfl]
  by_cases last : h.count r ≤ 1
  · -- the object is gone, and what it held cannot bring it back
    have none : (h.less r).count r = 0 := by omega
    have gone := (h.less r).count_releaseAll_le (h.freed r) r
    rw [step]
    omega
  · have nothing : h.freed r = [] := by
      unfold count at last
      unfold freed Cell.freed
      cases cell : h.cells[r]? with
      | none => rfl
      | some c =>
        rw [cell] at last
        exact if_neg fun single : c.count = 1 => last (Nat.le_of_eq single)
    rw [step, nothing, releaseAll, one]

/-- To take a reference to an object is to have one more to it. -/
theorem count_retain {h : Heap} {r : Ref} (place : r < h.cells.size) : (h.retain r).count r = h.count r + 1 := by
  simp [count, retain, Array.getElem?_modify, Array.getElem?_eq_getElem place]

/-- No place goes when references are given up. -/
theorem size_releaseAll (h : Heap) (refs : List Ref) : (h.releaseAll refs).cells.size = h.cells.size := by
  induction h, refs using releaseAll_induction with
  | nil h => rw [releaseAll]
  | cons h r rest ih =>
    rw [releaseAll_cons, ih]
    exact Array.size_modify

end Heap

end InterpreterHost
