import InterpreterHost.Interpreter.Finalizer
import InterpreterHost.Proofs.Heap.Gains

/-!
# References that are let go of

Where nothing that goes has a finalizer, to let go of references is to give them up, and no code runs by that.
Whether an object has one is told by its class, so a heap that gets no classes and no instances gets no
finalizers.

## Main definitions

* `Heap.AddsNoClass` — a heap has the objects of another one, and some that are no classes and no instances
* `Heap.Quiet` — nothing has a finalizer that goes when references are given up
* `Library.FinalizersAccount` — finalizers give up no references but their own

## Main statements

* `Library.letGo_of_quiet` — where nothing has a finalizer, references are let go of by giving them up
* `Library.owes_letGo` — what else is owed still is when references were let go of
-/

namespace InterpreterHost

/-- Whether an object is a class or an instance of one. -/
def Object.isClassed : Object → Bool
  | .cls .. | .instanceOf .. => true
  | _ => false

/-- A list or a tuple is no class and no instance of one. -/
theorem Object.isClassed_ofPlaces (kind : SequenceKind) (places : List (Option Ref)) :
    (ofPlaces kind places).isClassed = false := by
  unfold ofPlaces
  split
  · cases kind <;> rfl
  · rfl

namespace Heap

variable {h h' h'' : Heap} {r : Ref} {refs kept : List Ref}

/-! ## Classes -/

/-- Every object is as it was, or is no class and no instance of one. -/
def AddsNoClass (h h' : Heap) : Prop := ∀ r, h'.object r = h.object r ∨ (h'.object r).isClassed = false

namespace AddsNoClass

theorem refl (h : Heap) : h.AddsNoClass h := fun _ => .inl rfl

theorem trans (first : h.AddsNoClass h') (second : h'.AddsNoClass h'') : h.AddsNoClass h'' := by
  intro r
  obtain same | plain := second r
  · rw [same]
    exact first r
  · exact .inr plain

/-- What a class lacks it still lacks. -/
theorem classAttribute? (added : h.AddsNoClass h') {name : String} (c : Ref)
    (missing : h.classAttribute? c name = none) : h'.classAttribute? c name = none := by
  induction c using Nat.strongRecOn with
  | _ c ih =>
    rw [Heap.classAttribute?] at missing ⊢
    obtain same | plain := added c
    · rw [same]
      split at missing
      · next base attributes object =>
        cases own : attributes.find? name with
        | some value => simp [own] at missing
        | none =>
          cases base with
          | none => rfl
          | some b =>
            simp only [own] at missing ⊢
            split
            · next earlier => exact ih b earlier (by simpa [earlier] using missing)
            · rfl
      · rfl
    · split
      · next object =>
        rw [object] at plain
        cases plain
      · rfl

/-- What has no finalizer still has none. -/
theorem finalizer? (added : h.AddsNoClass h') (lacking : h.finalizer? r = none) : h'.finalizer? r = none := by
  unfold Heap.finalizer? at lacking ⊢
  obtain same | plain := added r
  · rw [same]
    split
    · next c attributes object =>
      rw [object] at lacking
      exact added.classAttribute? c lacking
    · rfl
  · split
    · next object =>
      rw [object] at plain
      cases plain
    · rfl

end AddsNoClass

theorem addsNoClass_modify (h : Heap) (r : Ref) (f : Cell → Cell)
    (plain : ∀ c, (f c).object = c.object ∨ (f c).object.isClassed = false) :
    h.AddsNoClass ⟨h.cells.modify r f⟩ := by
  intro q
  unfold object
  rw [Array.getElem?_modify]
  split
  · cases h.cells[q]? with
    | none => exact .inl rfl
    | some c => exact plain c
  · exact .inl rfl

theorem addsNoClass_retain (h : Heap) (r : Ref) : h.AddsNoClass (h.retain r) :=
  addsNoClass_modify h r _ fun _ => .inl rfl

theorem addsNoClass_setObject (h : Heap) (r : Ref) {o : Object} (plain : o.isClassed = false) :
    h.AddsNoClass (h.setObject r o) :=
  addsNoClass_modify h r _ fun _ => .inr plain

theorem addsNoClass_alloc (h : Heap) {o : Object} (plain : o.isClassed = false) : h.AddsNoClass (h.alloc o).2 := by
  intro q
  unfold object
  rw [cells_alloc]
  split
  · exact .inr plain
  · exact .inl rfl

theorem addsNoClass_less (h : Heap) (r : Ref) : h.AddsNoClass (h.less r) := by
  refine addsNoClass_modify h r _ fun c => ?_
  unfold Cell.less
  split
  · exact .inl rfl
  · split
    · exact .inr rfl
    · exact .inl rfl

theorem addsNoClass_releaseAll (h : Heap) (refs : List Ref) : h.AddsNoClass (h.releaseAll refs) := by
  induction h, refs using releaseAll_induction with
  | nil h =>
    rw [releaseAll]
    exact .refl h
  | cons h r rest ih =>
    rw [releaseAll_cons]
    exact (addsNoClass_less h r).trans ih

/-! ## Nothing to be finalized -/

/-- Nothing has a finalizer that goes when the references are given up. -/
def Quiet (h : Heap) (refs : List Ref) : Prop :=
  ∀ r, 0 < h.count r → (h.releaseAll refs).count r = 0 → h.finalizer? r = none

/-- What is quiet with more references is quiet with less. -/
theorem Quiet.of_append (quiet : h.Quiet (refs ++ kept)) : h.Quiet refs := by
  intro r held gone
  have still := (h.releaseAll refs).count_releaseAll_le kept r
  rw [gone] at still
  exact quiet r held (by rw [releaseAll_append]; omega)

/-- What is quiet is so for the other references once some were given up. -/
theorem Quiet.releaseAll (quiet : h.Quiet (refs ++ kept)) : (h.releaseAll refs).Quiet kept := by
  intro r held gone
  have before := h.count_releaseAll_le refs r
  rw [← releaseAll_append] at gone
  exact (addsNoClass_releaseAll h refs).finalizer? (quiet r (by omega) gone)

theorem Quiet.perm {refs' : List Ref} (quiet : h.Quiet refs) (perm : refs.Perm refs') : h.Quiet refs' := by
  unfold Quiet
  rwa [← releaseAll_perm h perm]

theorem quiet_of_forall (lacking : ∀ r, h.finalizer? r = none) (refs : List Ref) : h.Quiet refs :=
  fun r _ _ => lacking r

/-- Where there is no cell there is no object that has a finalizer. -/
theorem quiet_of_forall_lt (lacking : ∀ r < h.cells.size, h.finalizer? r = none) (refs : List Ref) : h.Quiet refs := by
  refine quiet_of_forall (fun r => ?_) refs
  by_cases inside : r < h.cells.size
  · exact lacking r inside
  · simp [Heap.finalizer?, Heap.object, Array.getElem?_eq_none (Nat.not_lt.1 inside)]

/-- Where a reference does not lead to a finalizer it is given up, and so are the others then. -/
theorem releaseUntil_cons (finalized : List Ref) {rest : List Ref}
    (undue : h.count r = 1 → h.due? finalized r = none) :
    h.releaseUntil finalized (r :: rest) = (h.less r).releaseUntil finalized (h.freed r ++ rest) := by
  rw [releaseUntil]
  split
  · next cell =>
    obtain ⟨same, nothing⟩ := less_of_count_eq_zero (h := h) (r := r) (by simp [count, cell])
    rw [same, nothing, List.nil_append]
  · next c cell =>
    have count : h.count r = c.count := by simp [count, cell]
    split
    · next zero =>
      obtain ⟨same, nothing⟩ := less_of_count_eq_zero (count.trans zero)
      rw [same, nothing, List.nil_append]
    · next some' =>
      split
      · next one =>
        obtain ⟨cleared, children⟩ := less_of_last cell one
        rw [undue (count.trans one), cleared, children]
      · next many =>
        obtain ⟨decremented, nothing⟩ := less_of_many cell some' many
        rw [decremented, nothing, List.nil_append]

/-- An object that would go is found if it has a finalizer that is to run. -/
theorem releaseUntil_cons_of_due {finalized rest : List Ref} {f : Ref} (last : h.count r = 1)
    (due : h.due? finalized r = some f) :
    h.releaseUntil finalized (r :: rest) = (h, some (r, f, rest)) := by
  obtain ⟨c, cell⟩ := exists_cell_of_held (h := h) (r := r) (by omega)
  have count : h.count r = c.count := by simp [count, cell]
  rw [releaseUntil]
  split
  · next missing =>
    rw [missing] at cell
    cases cell
  · next c' cell' =>
    obtain rfl : c = c' := Option.some.inj (cell.symm.trans cell')
    rw [if_neg (by omega), if_pos (by omega), due]

/-- Where nothing is to be finalized all references are given up. -/
theorem releaseUntil_of_quiet (finalized : List Ref) :
    h.Quiet refs → h.releaseUntil finalized refs = (h.releaseAll refs, none) := by
  induction h, refs using releaseAll_induction with
  | nil h =>
    intro _
    rw [releaseUntil, releaseAll]
  | cons h r rest ih =>
    intro quiet
    have undue : h.count r = 1 → h.due? finalized r = none := by
      intro last
      have gone := (h.less r).count_releaseAll_le (h.freed r ++ rest) r
      rw [← releaseAll_cons, count_less, if_pos rfl, last] at gone
      unfold due?
      split
      · rfl
      · exact quiet r (by omega) (by omega)
    have quiet' : (h.less r).Quiet (h.freed r ++ rest) := by
      intro q held gone
      rw [← releaseAll_cons] at gone
      have before : (h.less r).count q ≤ h.count q := by
        rw [count_less]
        split <;> omega
      exact (addsNoClass_less h r).finalizer? (quiet q (by omega) gone)
    rw [releaseUntil_cons finalized undue, releaseAll_cons, ih quiet']

/-- Up to an object that is to be finalized the counts stay right, and all that is still to be given up is owed. -/
theorem Owes.releaseUntil (finalized : List Ref) : h.Owes (refs ++ kept) →
    match h.releaseUntil finalized refs with
    | (h', none) => h'.Owes kept
    | (h', some (r, f, rest)) => h'.Owes (r :: rest ++ kept) ∧ h'.due? finalized r = some f := by
  induction h, refs using releaseAll_induction with
  | nil h =>
    intro owes
    rw [Heap.releaseUntil]
    exact owes
  | cons h r rest ih =>
    intro owes
    by_cases due : h.count r = 1 ∧ ∃ f, h.due? finalized r = some f
    · obtain ⟨last, f, due⟩ := due
      rw [releaseUntil_cons_of_due last due]
      exact ⟨owes, due⟩
    · have undue : h.count r = 1 → h.due? finalized r = none := fun last =>
        Option.eq_none_iff_forall_ne_some.2 fun f found => due ⟨last, f, found⟩
      rw [releaseUntil_cons finalized undue]
      refine ih ?_
      obtain ⟨outside, consistent⟩ := owes
      refine ⟨outside, ?_⟩
      rw [List.append_assoc]
      exact consistent.less

end Heap

namespace Library

variable {library : Library} {i : Interpreter} {refs kept : List Ref}

/-- Where nothing that goes has a finalizer, references are let go of by giving them up. -/
theorem letGo_of_quiet (library : Library) (quiet : i.heap.Quiet refs) :
    library.letGo i refs = { i with heap := i.heap.releaseAll refs } := by
  unfold letGo
  cases i.heap.cells.size with
  | zero => rfl
  | succ n => rw [letGoWithin, Heap.releaseUntil_of_quiet [] quiet]

/-- Finalizers give up no references but their own. -/
def FinalizersAccount (library : Library) : Prop :=
  ∀ (i : Interpreter) r f refs, i.heap.finalizer? r = some f → i.heap.Owes (r :: refs) →
    (library.finalize f r i).heap.Owes (r :: refs)

/-- What else is owed still is when references were let go of. -/
theorem owes_letGo (account : library.FinalizersAccount) (owes : i.heap.Owes (refs ++ kept)) :
    (library.letGo i refs).heap.Owes kept := by
  have within (n : Nat) (finalized : List Ref) (i : Interpreter) (refs : List Ref) (owes : i.heap.Owes (refs ++ kept)) :
      (library.letGoWithin n finalized i refs).heap.Owes kept := by
    induction n generalizing finalized i refs with
    | zero => exact owes.releaseAll
    | succ n ih =>
      have left := owes.releaseUntil finalized
      rw [letGoWithin]
      generalize i.heap.releaseUntil finalized refs = found at left
      rcases found with ⟨heap, - | ⟨r, f, rest⟩⟩
      · exact left
      · obtain ⟨owed, due⟩ := left
        refine ih _ _ _ (account { i with heap } r f _ ?_ owed)
        unfold Heap.due? at due
        split at due
        · cases due
        · exact due
  exact within _ _ _ _ owes

end Library

end InterpreterHost
