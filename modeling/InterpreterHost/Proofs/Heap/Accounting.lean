import InterpreterHost.Proofs.Heap.Extension

/-!
# Accounting for references

The count of an object is how often other objects refer to it and how many references there are from
outside.  Making objects and giving up references keeps it so; therefore an object to which someone has a
reference stays as it is, with all that it refers to, whatever others give up.

## Main definitions

* `Heap.Owes` — the counts are right, and the references of a list are among those from outside
* `Heap.Survives` — what is still referred to is as it was

## Main statements

* `Heap.Consistent.modify` — one cell changes, and the references from outside with it
* `Heap.Owes.alloc`, `Heap.Owes.retain` — a new object and a further reference are owed
* `Heap.Owes.releaseAll` — references that are given up are no longer owed, and the others still are
* `Heap.survives_releaseAll` — giving up references leaves what is still referred to

## Design notes

Who holds the references that are not listed does not matter: the interpreter may keep some of its own.
-/

namespace InterpreterHost.Heap

variable {h : Heap} {r : Ref} {refs kept : List Ref}

/-- The counts are right, and the references of the list are among those from outside. -/
def Owes (h : Heap) (refs : List Ref) : Prop := ∃ outside : Ref → Nat, h.Consistent fun r => outside r + refs.count r

theorem owes_iff : h.Owes refs ↔ ∃ outside : Ref → Nat,
    (∀ r, h.count r = h.references r + outside r + refs.count r) ∧ ∀ r, h.count r = 0 → h.object r = .none := by
  simp only [Owes, Consistent, Nat.add_assoc]

theorem Consistent.owes {outside : Ref → Nat} (consistent : h.Consistent outside) : h.Owes [] :=
  ⟨outside, consistent⟩

/-! ## Sums over cells -/

theorem references_modify {f : Cell → Cell} {c : Cell} (cell : h.cells[r]? = some c) (i : Ref) :
    (⟨h.cells.modify r f⟩ : Heap).references i + c.object.children.count i =
      h.references i + (f c).object.children.count i := by
  simp only [references, Array.toList_modify]
  exact sum_modify (fun c => c.object.children.count i) (by simpa using cell)

theorem references_alloc (h : Heap) (o : Object) (i : Ref) :
    (h.alloc o).2.references i = h.references i + o.children.count i := by
  have later (cells : List Cell) (d : Cell) :
      (cells ++ [d]).foldr (fun c n => c.object.children.count i + n) 0 =
        cells.foldr (fun c n => c.object.children.count i + n) 0 + d.object.children.count i := by
    induction cells with
    | nil => simp
    | cons c cells ih =>
      simp only [List.cons_append, List.foldr_cons, ih]
      omega
  simp only [references, alloc, Array.toList_push]
  exact later h.cells.toList ⟨1, o⟩

/-- What an object refers to is referred to. -/
theorem references_pos {o : Object} (has : h.Has r o) {i : Ref} (child : i ∈ o.children) :
    0 < h.references i := by
  obtain ⟨c, cell, rfl⟩ := Option.map_eq_some_iff.1 has
  -- The cell without its object would contribute less by as many times as it refers to the place.
  have less := references_modify (f := fun _ => ⟨0, .none⟩) cell i
  have some' : 0 < c.object.children.count i := List.count_pos_iff.2 child
  have nothing : Object.none.children.count i = 0 := rfl
  dsimp only at less
  omega

/-- When a cell changes, the counts stay right if the references from outside change with its count and with what
its object refers to. -/
theorem Consistent.modify {outside outside' : Ref → Nat} {f : Cell → Cell} {c : Cell}
    (consistent : h.Consistent outside) (cell : h.cells[r]? = some c)
    (balanced : ∀ i, (if r = i then (f c).count else 0) + c.object.children.count i + outside i =
      (if r = i then c.count else 0) + (f c).object.children.count i + outside' i)
    (emptied : (f c).count = 0 → (f c).object = .none) : (⟨h.cells.modify r f⟩ : Heap).Consistent outside' := by
  obtain ⟨counts, gone⟩ := consistent
  have cells (i : Ref) : (h.cells.modify r f)[i]? = if r = i then some (f c) else h.cells[i]? := by
    rw [Array.getElem?_modify]
    split
    · next same => rw [← same, cell, Option.map_some]
    · rfl
  refine ⟨fun i => ?_, fun i none => ?_⟩
  · have referred := references_modify (f := f) cell i
    have before := counts i
    have balance := balanced i
    simp only [count, cells] at before ⊢
    split at balance
    · next same =>
      subst same
      rw [cell, Option.map_some, Option.getD_some] at before
      rw [if_pos rfl, Option.map_some, Option.getD_some]
      omega
    · next other =>
      rw [if_neg other]
      omega
  · simp only [count, object, cells] at none ⊢
    split at none
    · next same =>
      rw [if_pos same, Option.map_some, Option.getD_some]
      exact emptied none
    · next other =>
      rw [if_neg other]
      exact gone i none

/-- There is a cell where there are references. -/
theorem exists_cell_of_held (held : 0 < h.count r) : ∃ c, h.cells[r]? = some c := by
  cases cell : h.cells[r]? with
  | none => simp [count, cell] at held
  | some c => exact ⟨c, rfl⟩

/-- There is an object where there are references. -/
theorem has_of_count_pos (held : 0 < h.count r) : h.Has r (h.object r) := by
  obtain ⟨c, cell⟩ := exists_cell_of_held held
  simp [Has, Heap.object, cell]

namespace Owes

theorem perm {refs' : List Ref} (owes : h.Owes refs) (perm : refs.Perm refs') : h.Owes refs' := by
  obtain ⟨outside, consistent⟩ := owes
  refine ⟨outside, ?_⟩
  simpa only [perm.count_eq] using consistent

/-- It may be left open who holds a reference. -/
theorem of_append (owes : h.Owes (refs ++ kept)) : h.Owes kept := by
  obtain ⟨outside, consistent⟩ := owes
  refine ⟨fun r => outside r + refs.count r, ?_⟩
  simpa only [List.count_append, Nat.add_assoc] using consistent

theorem forget (owes : h.Owes refs) : h.Owes [] := of_append (by rwa [List.append_nil])

theorem count_pos_of_mem (owes : h.Owes refs) (member : r ∈ refs) : 0 < h.count r := by
  obtain ⟨outside, counts, -⟩ := owes_iff.1 owes
  have listed : 0 < refs.count r := List.count_pos_iff.2 member
  have count := counts r
  omega

theorem count_pos_of_child (owes : h.Owes refs) {o : Object} (has : h.Has r o) {i : Ref}
    (child : i ∈ o.children) : 0 < h.count i := by
  obtain ⟨outside, counts, -⟩ := owes_iff.1 owes
  have referred := references_pos has child
  have count := counts i
  omega

/-- When a cell changes, the counts stay right if what is owed changes with its count and with what its object
refers to. -/
theorem modify {refs' : List Ref} {f : Cell → Cell} {c : Cell} (owes : h.Owes refs) (cell : h.cells[r]? = some c)
    (balanced : ∀ i, (if r = i then (f c).count else 0) + c.object.children.count i + refs.count i =
      (if r = i then c.count else 0) + (f c).object.children.count i + refs'.count i)
    (emptied : (f c).count = 0 → (f c).object = .none) : (⟨h.cells.modify r f⟩ : Heap).Owes refs' := by
  obtain ⟨outside, consistent⟩ := owes
  refine ⟨outside, consistent.modify cell (fun i => ?_) emptied⟩
  have balance := balanced i
  omega

/-! ## More references -/

theorem retain (owes : h.Owes refs) {o : Object} (has : h.Has r o) : (h.retain r).Owes (r :: refs) := by
  obtain ⟨c, cell, -⟩ := Option.map_eq_some_iff.1 has
  refine owes.modify cell (fun i => ?_) fun none => absurd none (Nat.succ_ne_zero _)
  rw [List.count_cons]
  simp only [beq_iff_eq]
  split <;> omega

theorem alloc {o : Object} (owes : h.Owes (o.children ++ refs)) :
    (h.alloc o).2.Owes ((h.alloc o).1 :: refs) := by
  obtain ⟨outside, counts, gone⟩ := owes_iff.1 owes
  simp only [List.count_append] at counts
  refine owes_iff.2 ⟨outside, fun i => ?_, fun i none => ?_⟩
  · have before := counts i
    rw [references_alloc, List.count_cons]
    simp only [count, cells_alloc, beq_iff_eq] at before ⊢
    change _ = _ + _ + (_ + if h.cells.size = i then 1 else 0)
    split
    · next fresh =>
      -- Nothing refers to a place beyond the cells.
      rw [Array.getElem?_eq_none (Nat.le_of_eq fresh.symm)] at before
      simp only [Option.map_none, Option.getD_none] at before
      simp only [if_pos fresh.symm, Option.map_some, Option.getD_some]
      omega
    · next other =>
      rw [if_neg fun same => other same.symm, before]
      omega
  · simp only [count, object, cells_alloc] at none ⊢
    split at none
    · cases none
    · next other =>
      rw [if_neg other]
      exact gone i none

end Owes

/-! ## Fewer references -/

/-- One reference from outside is less, and instead there is what goes with it. -/
theorem Consistent.less {outside : Ref → Nat} (consistent : h.Consistent fun q => outside q + (r :: refs).count q) :
    (h.less r).Consistent fun q => outside q + (h.freed r ++ refs).count q := by
  have held := Owes.count_pos_of_mem ⟨outside, consistent⟩ List.mem_cons_self
  obtain ⟨c, cell⟩ := exists_cell_of_held held
  have some' : c.count ≠ 0 := by
    simp only [count, cell, Option.map_some, Option.getD_some] at held
    omega
  have freed' : h.freed r = c.freed := by simp [freed, cell]
  rw [freed']
  by_cases last : c.count = 1
  · -- What the object referred to is owed in its place.
    have gone : c.less = ⟨0, .none⟩ := by rw [Cell.less, if_neg some', if_pos last]
    have parts : c.freed = c.object.children := by rw [Cell.freed, if_pos last]
    refine consistent.modify cell (fun i => ?_) fun _ => by rw [gone]
    have nothing : Object.none.children.count i = 0 := rfl
    rw [gone, parts, List.count_append, List.count_cons, nothing]
    simp only [beq_iff_eq]
    split <;> omega
  · have fewer : c.less = { c with count := c.count - 1 } := by rw [Cell.less, if_neg some', if_neg last]
    have nothing : c.freed = [] := by rw [Cell.freed, if_neg last]
    refine consistent.modify cell (fun i => ?_) fun none => ?_
    · rw [fewer, nothing, List.nil_append, List.count_cons]
      simp only [beq_iff_eq]
      split <;> omega
    · rw [fewer] at none
      dsimp only at none
      omega

/-- References from outside that are given up are there no more, and the others still are. -/
theorem Consistent.releaseAll {outside : Ref → Nat}
    (consistent : h.Consistent fun q => outside q + (refs ++ kept).count q) :
    (h.releaseAll refs).Consistent fun q => outside q + kept.count q := by
  induction h, refs using releaseAll_induction with
  | nil h =>
    rw [Heap.releaseAll]
    exact consistent
  | cons h r rest ih =>
    rw [releaseAll_cons]
    refine ih ?_
    rw [List.append_assoc]
    exact consistent.less

/-- References that are given up are no longer owed, and the others still are. -/
theorem Owes.releaseAll (owes : h.Owes (refs ++ kept)) : (h.releaseAll refs).Owes kept := by
  obtain ⟨outside, consistent⟩ := owes
  exact ⟨outside, consistent.releaseAll⟩

/-! ## What stays -/

/-- What is still referred to is as it was, and there are no more references. -/
structure Survives (h h' : Heap) : Prop where
  has : ∀ {r o}, 0 < h'.count r → h.Has r o → h'.Has r o
  count : ∀ r, h'.count r ≤ h.count r

namespace Survives

theorem refl (h : Heap) : h.Survives h := ⟨fun _ has => has, fun _ => Nat.le_refl _⟩

theorem trans {h₁ h₂ h₃ : Heap} (first : h₁.Survives h₂) (second : h₂.Survives h₃) : h₁.Survives h₃ where
  has held has := second.has held (first.has (Nat.lt_of_lt_of_le held (second.count _)) has)
  count r := Nat.le_trans (second.count r) (first.count r)

/-- What is still referred to was there. -/
theorem has_of_held {h h' : Heap} {r : Ref} (survives : h.Survives h') (held : 0 < h'.count r) :
    h.Has r (h.object r) := has_of_count_pos (Nat.lt_of_lt_of_le held (survives.count r))

theorem object {h h' : Heap} {r : Ref} (survives : h.Survives h') (held : 0 < h'.count r) :
    h'.object r = h.object r := (survives.has held (survives.has_of_held held)).object

end Survives

theorem survives_less (h : Heap) (r : Ref) : h.Survives (h.less r) := by
  refine ⟨fun {i o} held has => ?_, fun i => ?_⟩
  · rw [count_less] at held
    obtain ⟨c, cell, rfl⟩ := Option.map_eq_some_iff.1 has
    have count' : h.count i = c.count := by simp [count, cell]
    rw [Has, cells_less, cell]
    split
    · next same =>
      rw [if_pos same, count'] at held
      have many : c.count ≠ 0 ∧ c.count ≠ 1 := by omega
      simp [Cell.less, many]
    · rfl
  · rw [count_less]
    split
    · exact Nat.sub_le _ _
    · exact Nat.le_refl _

/-- Giving up references leaves what is still referred to. -/
theorem survives_releaseAll (h : Heap) (refs : List Ref) : h.Survives (h.releaseAll refs) := by
  induction h, refs using releaseAll_induction with
  | nil h =>
    rw [releaseAll]
    exact .refl h
  | cons h r rest ih =>
    rw [releaseAll_cons]
    exact (survives_less h r).trans ih

/-! ## The first heap -/

/-- The interpreter holds one reference to each of the objects that there is one of. -/
theorem consistent_initial : initial.Consistent fun r => if r < 3 then 1 else 0 := by
  refine ⟨fun r => ?_, fun r none => ?_⟩
  · match r with
    | 0 | 1 | 2 => rfl
    | r + 3 => rfl
  · match r with
    | 0 | 1 | 2 => cases none
    | r + 3 => rfl

end InterpreterHost.Heap
