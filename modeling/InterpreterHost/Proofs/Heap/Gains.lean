import InterpreterHost.Proofs.Heap.Accounting

/-!
# Heaps that gain objects

A heap gains objects one after the other.  Every reference that is added is to one of them and is held by one
that contains it, except for a few that whoever made the objects still owes; to give those up takes away all
that was gained.

## Main definitions

* `Heap.Gains` — the objects that a heap gains, and the references to them that are owed

## Main statements

* `Heap.gains_new` — a new object that refers to nothing
* `Heap.Gains.trans` — some objects first, and others then
* `Heap.Gains.adopt` — a container takes over what was made for it
* `Heap.Gains.consistent`, `Heap.Gains.owes` — the counts are right as they were
-/

namespace InterpreterHost.Heap

/-- From the one heap to the other there are the objects `nodes` more, each listed as often as it is referred
to, and of the references to them those in `owed` are not held by objects. -/
structure Gains (h h' : Heap) (owed nodes : List Ref) : Prop where
  /-- There is one reference more for each time that an object is listed, and no other. -/
  count : ∀ q, h'.count q = h.count q + nodes.count q
  /-- Objects hold these references, except for those that are owed. -/
  references : ∀ q, h'.references q + owed.count q = h.references q + nodes.count q
  /-- The objects are new and each is listed once, except those that there is one of each. -/
  new : ∀ q ∈ nodes, (h.cells.size ≤ q ∧ nodes.count q = 1) ∨ ∃ o, singleton? o = some q
  /-- What was there is there. -/
  grown : h.Extends h'
  /-- What is gone refers to nothing, if that was so. -/
  gone : (∀ q, h.count q = 0 → h.object q = .none) → ∀ q, h'.count q = 0 → h'.object q = .none
  /-- To give up what is owed undoes it. -/
  undone : h.Undone (h'.releaseAll owed)

variable {h h' g g' : Heap} {r : Ref} {owed nodes : List Ref}

/-! ## Sizes and objects -/

theorem Has.lt_size {q : Nat} {o : Object} (has : h.Has q o) : q < h.cells.size := by
  obtain ⟨c, cell, -⟩ := Option.map_eq_some_iff.1 has
  exact (Array.getElem?_eq_some_iff.1 cell).1

theorem exists_has {q : Nat} (inside : q < h.cells.size) : ∃ o, h.Has q o :=
  ⟨h.cells[q].object, by rw [Has, Array.getElem?_eq_getElem inside, Option.map_some]⟩

theorem Has.unique {o o' : Object} (has : h.Has r o) (has' : h.Has r o') : o = o' :=
  Option.some.inj (has.symm.trans has')

theorem Extends.size (extended : h.Extends h') : h.cells.size ≤ h'.cells.size := by
  refine Nat.le_of_not_lt fun smaller => ?_
  obtain ⟨o, has⟩ := exists_has smaller
  exact Nat.lt_irrefl _ (extended.has has).lt_size

/-- There are no references to where there is no cell. -/
theorem count_of_size_le (outside : h.cells.size ≤ r) : h.count r = 0 := by
  rw [count, Array.getElem?_eq_none outside]
  rfl

theorem not_singleton_of_has {o : Object} (singles : h.HasSingletons) (has : h.Has r o)
    (many : singleton? o = none) : ¬ ∃ o', singleton? o' = some r := by
  rintro ⟨o', single⟩
  obtain rfl := has.unique (singles o' r single).1
  rw [many] at single
  cases single

/-! ## Places that are gone -/

@[simp] theorem count_padded (h : Heap) (n : Nat) (q : Ref) : (h.padded n).count q = h.count q := by
  rw [count, cells_padded]
  split
  · rfl
  · next outside =>
    rw [count_of_size_le (Nat.le_of_not_lt outside)]
    split <;> rfl

@[simp] theorem object_padded (h : Heap) (n : Nat) (q : Ref) : (h.padded n).object q = h.object q := by
  rw [object, object, cells_padded]
  split
  · rfl
  · next outside =>
    rw [Array.getElem?_eq_none (Nat.le_of_not_lt outside)]
    split <;> rfl

@[simp] theorem references_padded (h : Heap) (n : Nat) (q : Ref) : (h.padded n).references q = h.references q := by
  have nothing : (List.replicate n (⟨0, .none⟩ : Cell)).foldr (fun c n => c.object.children.count q + n) 0 = 0 := by
    induction n with
    | zero => rfl
    | succ n ih =>
      rw [List.replicate_succ, List.foldr_cons, ih]
      rfl
  simp only [references, padded, Array.toList_append, Array.toList_replicate, List.foldr_append, nothing]

theorem extends_padded (h : Heap) (n : Nat) : h.Extends (h.padded n) where
  has {q o} has := by
    rw [Has, cells_padded, if_pos has.lt_size]
    exact has
  count q := Nat.le_of_eq (count_padded h n q).symm

/-! ## Objects in a container that changes -/

theorem cells_setObject (h : Heap) (r i : Ref) (o : Object) :
    (h.setObject r o).cells[i]? =
      if r = i then h.cells[i]?.map (fun c => { c with object := o }) else h.cells[i]? := by
  rw [setObject, Array.getElem?_modify]

@[simp] theorem count_setObject (h : Heap) (r q : Ref) (o : Object) : (h.setObject r o).count q = h.count q := by
  rw [count, count, cells_setObject]
  split
  · cases h.cells[q]? <;> rfl
  · rfl

theorem has_setObject {o o' : Object} (has : h.Has r o) : (h.setObject r o').Has r o' := by
  obtain ⟨c, cell, -⟩ := Option.map_eq_some_iff.1 has
  rw [Has, cells_setObject, if_pos rfl, cell]
  rfl

theorem has_setObject_of_ne {o o' : Object} {q : Ref} (other : r ≠ q) (has : h.Has q o) :
    (h.setObject r o').Has q o := by
  rw [Has, cells_setObject, if_neg other]
  exact has

theorem references_setObject {o o' : Object} (has : h.Has r o) (q : Ref) :
    (h.setObject r o').references q + o.children.count q = h.references q + o'.children.count q := by
  obtain ⟨c, cell, rfl⟩ := Option.map_eq_some_iff.1 has
  exact references_modify (f := ({ · with object := o' })) cell q

/-- An object that goes with its last reference gives up what it holds. -/
theorem release_of_last {o : Object} (has : h.Has r o) (last : h.count r = 1) :
    h.release r = (h.less r).releaseAll o.children := by
  obtain ⟨c, cell, rfl⟩ := Option.map_eq_some_iff.1 has
  have one : c.count = 1 := by simpa [count, cell] using last
  have freed : h.freed r = c.object.children := by simp [Heap.freed, cell, Cell.freed, one]
  rw [release, releaseAll_cons, freed, List.append_nil]

/-- Where an object is gone it does not matter which it was. -/
theorem less_setObject {o : Object} (last : h.count r = 1) : (h.setObject r o).less r = h.less r := by
  refine ext_cells fun i => ?_
  rw [cells_less, cells_less, cells_setObject]
  split
  · next same =>
    subst same
    cases cell : h.cells[r]? with
    | none => rfl
    | some c =>
      have one : c.count = 1 := by simpa [count, cell] using last
      simp [Cell.less, one]
  · rfl

/-! ## Gaining -/

theorem references_retain (h : Heap) (r q : Ref) : (h.retain r).references q = h.references q := by
  cases cell : h.cells[r]? with
  | none =>
    have same : h.retain r = h := by
      refine ext_cells fun i => ?_
      rw [cells_retain]
      split
      · next equal => rw [← equal, cell, Option.map_none]
      · rfl
    rw [same]
  | some c =>
    have more := references_modify (f := fun c => { c with count := c.count + 1 }) cell q
    exact Nat.add_right_cancel more

/-- One reference more to an object that is there. -/
theorem count_retain_of_has {o : Object} (has : h.Has r o) (q : Ref) :
    (h.retain r).count q = h.count q + [r].count q := by
  rw [List.count_singleton]
  by_cases same : r = q
  · subst same
    rw [count_retain has.lt_size, if_pos (beq_self_eq_true r)]
  · rw [count, cells_retain, if_neg same, if_neg (by simpa using same)]
    rfl

theorem count_alloc (h : Heap) (o : Object) (q : Ref) :
    (h.alloc o).2.count q = h.count q + [(h.alloc o).1].count q := by
  rw [List.count_singleton]
  change _ = _ + if h.cells.size == q then 1 else 0
  by_cases fresh : q = h.cells.size
  · rw [count_of_size_le (Nat.le_of_eq fresh.symm), count, cells_alloc, if_pos fresh, if_pos (by simp [fresh])]
    rfl
  · have other : ¬ (h.cells.size == q) = true := by simpa using fun same => fresh same.symm
    rw [count, cells_alloc, if_neg fresh, if_neg other]
    rfl

/-- A new object that refers to nothing and is not one of those that there is one of each. -/
theorem gains_alloc (h : Heap) {o : Object} (childless : o.children = []) :
    h.Gains (h.alloc o).2 [(h.alloc o).1] [(h.alloc o).1] where
  count := count_alloc h o
  references q := by
    have more := references_alloc h o q
    rw [childless, List.count_nil] at more
    omega
  new q member := by
    rw [List.mem_singleton.1 member]
    exact .inl ⟨Nat.le_refl _, List.count_singleton_self⟩
  grown := extends_alloc h o
  gone known q none := by
    have more := count_alloc h o q
    unfold Heap.object
    rw [cells_alloc]
    split
    · next fresh =>
      have one : [(h.alloc o).1].count q = 1 := by
        rw [fresh]
        exact List.count_singleton_self
      omega
    · exact known q (by omega)
  undone := by
    obtain ⟨padded, children⟩ := less_alloc h o
    rw [releaseAll_cons, children, childless, List.append_nil, releaseAll]
    exact ⟨1, padded⟩

/-- A reference more to one of the objects that there is one of each. -/
theorem gains_retain (singles : h.HasSingletons) {o : Object} (single : singleton? o = some r) :
    h.Gains (h.retain r) [r] [r] where
  count := count_retain_of_has (singles o r single).1
  references q := by rw [references_retain]
  new q member := .inr ⟨o, by rw [List.mem_singleton.1 member]; exact single⟩
  grown := extends_retain h r
  gone known q none := by
    have more := count_retain_of_has (singles o r single).1 q
    have same := known q (by omega)
    unfold Heap.object at same ⊢
    rw [cells_retain]
    split
    · rw [Option.map_map]
      exact same
    · exact same
  undone := by
    obtain ⟨same, nothing⟩ := less_retain (singles o r single).2
    rw [releaseAll_cons, same, nothing, List.append_nil, releaseAll]
    exact .refl h

/-- A new object that refers to nothing. -/
theorem gains_new (singles : h.HasSingletons) {o : Object} (childless : o.children = []) :
    h.Gains (h.new o).2 [(h.new o).1] [(h.new o).1] := by
  unfold Heap.new
  split
  · next r single => exact gains_retain singles single
  · exact gains_alloc h childless

namespace Gains

theorem refl (h : Heap) : h.Gains h [] [] where
  count _ := rfl
  references _ := rfl
  new := List.forall_mem_nil _
  grown := .refl h
  gone := id
  undone := by
    rw [Heap.releaseAll]
    exact .refl h

/-- The objects have places. -/
theorem lt_size (gained : h.Gains h' owed nodes) {q : Nat} (member : q ∈ nodes) : q < h'.cells.size := by
  refine Nat.lt_of_not_le fun outside => ?_
  have count := gained.count q
  have listed : 0 < nodes.count q := List.count_pos_iff.2 member
  rw [count_of_size_le outside] at count
  omega

/-- Some objects first, and others then. -/
theorem trans {owed' nodes' : List Ref} (first : h.Gains g owed nodes) (second : g.Gains h' owed' nodes') :
    h.Gains h' (owed' ++ owed) (nodes ++ nodes') where
  count q := by rw [second.count, first.count, List.count_append, Nat.add_assoc]
  references q := by
    have before := first.references q
    have after := second.references q
    rw [List.count_append, List.count_append]
    omega
  new q member := by
    by_cases single : ∃ o, singleton? o = some q
    · exact .inr single
    · left
      rw [List.count_append]
      by_cases early : q ∈ nodes
      · obtain ⟨fresh, once⟩ := (first.new q early).resolve_right single
        -- What was there before the others is none of them.
        have other : q ∉ nodes' := fun late =>
          Nat.lt_irrefl _ (Nat.lt_of_lt_of_le (first.lt_size early) ((second.new q late).resolve_right single).1)
        exact ⟨fresh, by rw [once, List.count_eq_zero_of_not_mem other]⟩
      · have late := (List.mem_append.1 member).resolve_left early
        obtain ⟨fresh, once⟩ := (second.new q late).resolve_right single
        exact ⟨Nat.le_trans first.grown.size fresh, by rw [once, List.count_eq_zero_of_not_mem early]⟩
  grown := first.grown.trans second.grown
  gone known := second.gone (first.gone known)
  undone := by
    rw [releaseAll_append]
    exact first.undone.trans (second.undone.releaseAll owed)

theorem perm {nodes' : List Ref} (gained : h.Gains h' owed nodes) (perm : nodes.Perm nodes') :
    h.Gains h' owed nodes' where
  count q := by rw [gained.count, perm.count_eq]
  references q := by rw [gained.references, perm.count_eq]
  new q member := by
    rw [← perm.count_eq]
    exact gained.new q (perm.mem_iff.2 member)
  grown := gained.grown
  gone := gained.gone
  undone := gained.undone

/-- What was gained is still there after something that was undone. -/
theorem of_undone (gained : h.Gains g owed nodes) (undone : g.Undone h') : h.Gains h' owed nodes := by
  obtain ⟨n, rfl⟩ := undone
  refine ⟨fun q => ?_, fun q => ?_, gained.new, gained.grown.trans (extends_padded g n), fun known q none => ?_,
    gained.undone.trans (Undone.releaseAll ⟨n, rfl⟩ owed)⟩
  · rw [count_padded, gained.count]
  · rw [references_padded, gained.references]
  · rw [count_padded] at none
    rw [object_padded]
    exact gained.gone known q none

/-- A container that nothing else refers to takes over what was made for it. -/
theorem adopt {c : Ref} {o o' : Object} {parts more : List Ref} (held : h.Gains g [c] nodes)
    (made : g.Gains g' parts more) (fresh : h.cells.size ≤ c) (has : g'.Has c o) (last : g'.count c = 1)
    (children : o'.children = o.children ++ parts) : h.Gains (g'.setObject c o') [c] (nodes ++ more) where
  count q := by rw [count_setObject, made.count, held.count, List.count_append, Nat.add_assoc]
  references q := by
    have changed : (g'.setObject c o').references q + _ = _ := references_setObject has q
    have before := held.references q
    have after := made.references q
    rw [children, List.count_append] at changed
    rw [List.count_append]
    omega
  new := (held.trans made).new
  grown := by
    have grown := held.grown.trans made.grown
    refine ⟨fun {q o₁} has₁ => has_setObject_of_ne ?_ (grown.has has₁), fun q => ?_⟩
    · rintro rfl
      exact Nat.lt_irrefl _ (Nat.lt_of_lt_of_le has₁.lt_size fresh)
    · rw [count_setObject]
      exact grown.count q
  gone known q none := by
    rw [count_setObject] at none
    have other : c ≠ q := by
      rintro rfl
      omega
    have before := made.gone (held.gone known) q none
    unfold Heap.object at before ⊢
    rwa [cells_setObject, if_neg other]
  undone := by
    -- The container gives up what it held before, and the parts as if they had not been put into it.
    have parted : (g'.setObject c o').releaseAll [c] = (g'.releaseAll parts).releaseAll [c] := by
      calc (g'.setObject c o').releaseAll [c]
          = (g'.less c).releaseAll (o.children ++ parts) := by
            rw [← children, ← less_setObject last]
            exact release_of_last (has_setObject has) (by rwa [count_setObject])
        _ = (g'.release c).releaseAll parts := by rw [releaseAll_append, release_of_last has last]
        _ = (g'.releaseAll parts).releaseAll [c] := by
          rw [release, ← releaseAll_append, ← releaseAll_append, releaseAll_perm g' List.perm_append_comm]
    rw [parted]
    exact held.undone.trans (made.undone.releaseAll [c])

/-- Counts that were right are right, with what is owed among the references from outside. -/
theorem consistent (gained : h.Gains h' owed nodes) {outside : Ref → Nat} (consistent : h.Consistent outside) :
    h'.Consistent fun q => outside q + owed.count q := by
  refine ⟨fun q => ?_, gained.gone consistent.2⟩
  have before := consistent.1 q
  have counts := gained.count q
  have references := gained.references q
  dsimp only
  omega

/-- What is owed for the objects is owed beyond what was owed before. -/
theorem owes (gained : h.Gains h' owed nodes) {refs : List Ref} (owes : h.Owes refs) : h'.Owes (owed ++ refs) := by
  obtain ⟨outside, consistent⟩ := owes
  refine ⟨outside, ?_⟩
  have right := gained.consistent consistent
  simpa only [List.count_append, Nat.add_assoc, Nat.add_comm (refs.count _)] using right

end Gains

end InterpreterHost.Heap
