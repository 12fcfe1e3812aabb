import InterpreterHost.Proofs.Heap.Accounting
import InterpreterHost.Proofs.Marshal.Placement
import Mathlib.Data.List.Forall2

/-!
# Twins

Two objects are twins if they have the same type and an equal content, and so do their parts.  The objects of a
value are those of the same value wherever they have twins, and they stay so while someone has a reference to
the outermost.

## Main definitions

* `Object.Twin`, `Heap.Twins` — the same type and an equal content, in two heaps

## Main statements

* `Heap.Holds.twin` — twins of the objects of a value are objects of that value
* `Heap.twins_holds` — objects of the same value are twins
* `Heap.Holds.releaseAll` — what a reference keeps of a value

## Design notes

The relation between the places of two heaps is any one that is closed under taking parts, so that graphs may
share parts in different ways.
-/

namespace InterpreterHost

/-- The objects have the same type and an equal content, with parts that are related by `R`. -/
inductive Object.Twin (R : Ref → Ref → Prop) : Object → Object → Prop where
  | same {o : Object} (parts : ∀ r ∈ o.children, R r r) : Twin R o o
  | list {items items' : List Ref} (parts : List.Forall₂ R items items') : Twin R (.list items) (.list items')
  | dict {entries entries' : List (Ref × Ref)}
      (parts : List.Forall₂ (fun e e' => R e.1 e'.1 ∧ R e.2 e'.2) entries entries') :
      Twin R (.dict entries) (.dict entries')

namespace Heap

variable {h h' : Heap}

/-- The relation is between objects of the same type and an equal content, and so it is with their parts. -/
def Twins (h h' : Heap) (R : Ref → Ref → Prop) : Prop :=
  ∀ r r', R r r' → ∃ o o', h.Has r o ∧ h'.Has r' o' ∧ o.Twin R o'

theorem Holds.exists_has {h : Heap} {v : Value} {r : Ref} (holds : h.Holds v r) : ∃ o, h.Has r o := by
  cases v with
  | array items =>
    obtain ⟨refs, list, -⟩ := holds
    exact ⟨_, list⟩
  | map entries =>
    obtain ⟨refs, dict, -⟩ := holds
    exact ⟨_, dict⟩
  | _ => exact ⟨_, holds⟩

theorem HoldsAll.exists_has {h : Heap} {items : List Value} {refs : List Ref} (holds : h.HoldsAll items refs) :
    ∀ r ∈ refs, ∃ o, h.Has r o := by
  induction items generalizing refs with
  | nil =>
    obtain rfl : refs = [] := holds
    exact List.forall_mem_nil _
  | cons v items ih =>
    obtain ⟨r, rest, rfl, first, others⟩ := holds
    exact List.forall_mem_cons.2 ⟨first.exists_has, ih others⟩

/-! ## Twins of the objects of a value -/

section

variable {R : Ref → Ref → Prop}

theorem HoldsAll.twin {items : List Value}
    (parts : ∀ v ∈ items, ∀ r r', R r r' → h.Holds v r → h'.Holds v r') {refs refs' : List Ref}
    (related : List.Forall₂ R refs refs') (holds : h.HoldsAll items refs) : h'.HoldsAll items refs' := by
  induction items generalizing refs refs' with
  | nil =>
    obtain rfl : refs = [] := holds
    cases related
    rfl
  | cons v items ih =>
    obtain ⟨head, tail⟩ := List.forall_mem_cons.1 parts
    obtain ⟨r, rest, rfl, first, others⟩ := holds
    cases related with
    | cons one more => exact ⟨_, _, rfl, head _ _ one first, ih tail more others⟩

variable (twins : h.Twins h' R)
include twins

theorem Twins.leaf {r r' : Ref} (related : R r r') {o : Object} (childless : o.children = [])
    (has : h.Has r o) : h'.Has r' o := by
  obtain ⟨p, p', here, there, twin⟩ := twins r r' related
  cases here.unique has
  cases twin with
  | same => exact there
  | list parts =>
    obtain rfl : _ = [] := childless
    cases parts
    exact there
  | @dict entries entries' parts =>
    have none : entries = [] := by
      cases entries with
      | nil => rfl
      | cons e entries => cases childless
    subst none
    cases parts
    exact there

theorem Twins.list {r r' : Ref} (related : R r r') {items : List Ref} (has : h.Has r (.list items)) :
    ∃ items', h'.Has r' (.list items') ∧ List.Forall₂ R items items' := by
  obtain ⟨p, p', here, there, twin⟩ := twins r r' related
  cases here.unique has
  cases twin with
  | same parts => exact ⟨items, there, List.forall₂_same.2 parts⟩
  | list parts => exact ⟨_, there, parts⟩

theorem Twins.dict {r r' : Ref} (related : R r r') {entries : List (Ref × Ref)} (has : h.Has r (.dict entries)) :
    ∃ entries', h'.Has r' (.dict entries') ∧
      List.Forall₂ (fun e e' => R e.1 e'.1 ∧ R e.2 e'.2) entries entries' := by
  obtain ⟨p, p', here, there, twin⟩ := twins r r' related
  cases here.unique has
  cases twin with
  | same parts =>
    refine ⟨entries, there, List.forall₂_same.2 fun e member => ⟨?_, ?_⟩⟩
    · exact parts _ (List.mem_flatMap.2 ⟨e, member, List.mem_cons_self⟩)
    · exact parts _ (List.mem_flatMap.2 ⟨e, member, List.mem_cons_of_mem _ (List.mem_singleton_self _)⟩)
  | dict parts => exact ⟨_, there, parts⟩

theorem HoldsEntries.twin {entries : List (String × Value)}
    (parts : ∀ e ∈ entries, ∀ r r', R r r' → h.Holds e.2 r → h'.Holds e.2 r') {refs refs' : List (Ref × Ref)}
    (related : List.Forall₂ (fun e e' => R e.1 e'.1 ∧ R e.2 e'.2) refs refs')
    (holds : h.HoldsEntries entries refs) : h'.HoldsEntries entries refs' := by
  induction entries generalizing refs refs' with
  | nil =>
    obtain rfl : refs = [] := holds
    cases related
    rfl
  | cons e entries ih =>
    obtain ⟨head, tail⟩ := List.forall_mem_cons.1 parts
    obtain ⟨key, r, rest, rfl, named, first, others⟩ := holds
    cases related with
    | cons one more =>
      exact ⟨_, _, _, rfl, twins.leaf one.1 rfl named, head _ _ one.2 first, ih tail more others⟩

/-- Twins of the objects of a value are objects of that value. -/
theorem Holds.twin (v : Value) : ∀ r r', R r r' → h.Holds v r → h'.Holds v r' := by
  induction v using Value.induction with
  | array items parts =>
    rintro r r' related ⟨refs, list, all⟩
    obtain ⟨refs', list', related'⟩ := twins.list related list
    exact ⟨refs', list', all.twin parts related'⟩
  | map entries parts =>
    rintro r r' related ⟨refs, dict, all⟩
    obtain ⟨refs', dict', related'⟩ := twins.dict related dict
    exact ⟨refs', dict', all.twin twins parts related'⟩
  | _ => exact fun r r' related has => twins.leaf related rfl has

end

/-! ## Objects of the same value -/

theorem HoldsAll.forall₂ {items : List Value} {refs refs' : List Ref} (here : h.HoldsAll items refs)
    (there : h'.HoldsAll items refs') :
    List.Forall₂ (fun r r' => ∃ v, h.Holds v r ∧ h'.Holds v r') refs refs' := by
  induction items generalizing refs refs' with
  | nil =>
    obtain rfl : refs = [] := here
    obtain rfl : refs' = [] := there
    exact .nil
  | cons v items ih =>
    obtain ⟨r, rest, rfl, first, others⟩ := here
    obtain ⟨r', rest', rfl, first', others'⟩ := there
    exact .cons ⟨v, first, first'⟩ (ih others others')

theorem HoldsEntries.forall₂ {entries : List (String × Value)} {refs refs' : List (Ref × Ref)}
    (here : h.HoldsEntries entries refs) (there : h'.HoldsEntries entries refs') :
    List.Forall₂ (fun e e' => (∃ v, h.Holds v e.1 ∧ h'.Holds v e'.1) ∧ ∃ v, h.Holds v e.2 ∧ h'.Holds v e'.2)
      refs refs' := by
  induction entries generalizing refs refs' with
  | nil =>
    obtain rfl : refs = [] := here
    obtain rfl : refs' = [] := there
    exact .nil
  | cons e entries ih =>
    obtain ⟨key, r, rest, rfl, named, first, others⟩ := here
    obtain ⟨key', r', rest', rfl, named', first', others'⟩ := there
    exact .cons ⟨⟨.string e.1, named, named'⟩, ⟨e.2, first, first'⟩⟩ (ih others others')

/-- Objects of the same value are twins. -/
theorem twins_holds (h h' : Heap) : h.Twins h' fun r r' => ∃ v, h.Holds v r ∧ h'.Holds v r' := by
  rintro r r' ⟨v, here, there⟩
  cases v with
  | array items =>
    obtain ⟨refs, list, all⟩ := here
    obtain ⟨refs', list', all'⟩ := there
    exact ⟨_, _, list, list', .list (all.forall₂ all')⟩
  | map entries =>
    obtain ⟨refs, dict, all⟩ := here
    obtain ⟨refs', dict', all'⟩ := there
    exact ⟨_, _, dict, dict', .dict (all.forall₂ all')⟩
  | _ => exact ⟨_, _, here, there, .same (List.forall_mem_nil _)⟩

/-! ## What a reference keeps -/

/-- What someone still refers to is its own twin after references were given up. -/
theorem Survives.twins (survives : h.Survives h') {refs : List Ref} (owes : h'.Owes refs) :
    h.Twins h' fun r r' => r = r' ∧ 0 < h'.count r := by
  rintro r _ ⟨rfl, held⟩
  have has := survives.has_of_held held
  have has' := survives.has held has
  exact ⟨_, _, has, has', .same fun _ child => ⟨rfl, owes.count_pos_of_child has' child⟩⟩

/-- The objects of a value stay as they are while someone refers to the outermost, whatever else is given up. -/
theorem Holds.releaseAll {v : Value} {r : Ref} (holds : h.Holds v r) {refs kept : List Ref}
    (owes : h.Owes (refs ++ r :: kept)) : (h.releaseAll refs).Holds v r :=
  Holds.twin ((survives_releaseAll h refs).twins owes.releaseAll) v r r
    ⟨rfl, owes.releaseAll.count_pos_of_mem List.mem_cons_self⟩ holds

end Heap

end InterpreterHost
