import InterpreterHost.Marshal.Slot
import InterpreterHost.Proofs.Heap.Gains

/-!
# References put into containers

Who puts an object into a container has one reference to it less afterwards, whether the container takes over
the reference, takes one of its own or refuses the object.  If the object is put there, the container refers to
it once more, and once less to what stood there.

## Main definitions

* `Slot.item?` — what stands at a place of a container
* `Slot.Fits` — when an object can be put there
* `Slot.Inserted`, `Slot.Refused` — what has changed afterwards

## Main statements

* `Slot.settle_settled` — one or the other, and the counts are right
-/

namespace InterpreterHost

namespace Object

/-- A list, a tuple or a dictionary. -/
def IsContainer : Object → Prop
  | .list _ | .tuple _ | .unfilled _ _ | .dict _ => True
  | _ => False

section

variable {kind : SequenceKind} {o : Object} {places : List (Option Ref)}

/-- Where there are places for items it is a list or a tuple, and it holds what has come to them. -/
theorem of_places? (found : o.places? kind = some places) :
    o.IsContainer ∧ o.children = places.filterMap id := by
  cases o with
  | list items | tuple items =>
    obtain ⟨-, same⟩ := Option.ite_none_right_eq_some.1 found
    rw [← Option.some.inj same, List.filterMap_map]
    refine ⟨trivial, ?_⟩
    exact (List.filterMap_some (l := items)).symm
  | unfilled kind' places' =>
    obtain ⟨-, same⟩ := Option.ite_none_right_eq_some.1 found
    rw [← Option.some.inj same]
    exact ⟨trivial, rfl⟩
  | _ => cases found

theorem isContainer_ofPlaces (kind : SequenceKind) (places : List (Option Ref)) :
    (ofPlaces kind places).IsContainer := (of_places? (places?_ofPlaces kind places)).1

end

end Object

namespace Heap

variable {h h' : Heap} {r q : Ref}

/-! ## References taken for a while -/

theorem release_retain (held : 0 < h.count r) : (h.retain r).release r = h := by
  obtain ⟨same, nothing⟩ := less_retain held
  rw [release, releaseAll_cons, same, nothing, List.nil_append, releaseAll]

theorem setObject_retain (h : Heap) (r q : Ref) (o : Object) :
    (h.retain q).setObject r o = (h.setObject r o).retain q := by
  refine ext_cells fun i => ?_
  simp only [cells_setObject, cells_retain]
  cases h.cells[i]? <;> split <;> split <;> rfl

theorem setObject_alloc {o : Object} (has : h.Has r o) (o' text : Object) :
    (h.alloc text).2.setObject r o' = ((h.setObject r o').alloc text).2 := by
  have size : (h.setObject r o').cells.size = h.cells.size := Array.size_modify
  refine ext_cells fun i => ?_
  rw [cells_setObject, cells_alloc, cells_alloc, cells_setObject, size]
  by_cases fresh : i = h.cells.size
  · have other : ¬ r = i := by
      rintro rfl
      exact Nat.lt_irrefl _ (fresh ▸ has.lt_size)
    rw [if_neg other, if_pos fresh, if_pos fresh]
  · rw [if_neg fresh, if_neg fresh]

/-- What is made and given up again leaves a place that is gone. -/
theorem release_alloc (h : Heap) {o : Object} (childless : o.children = []) :
    (h.alloc o).2.release (h.alloc o).1 = h.padded 1 := by
  obtain ⟨padded, children⟩ := less_alloc h o
  rw [release, releaseAll_cons, children, childless, List.append_nil, padded, releaseAll]

/-! ## Objects that stay -/

theorem basis_padded (h : Heap) (n : Nat) (r : Ref) : (h.padded n).basis r = h.basis r := by
  rw [basis, object_padded, basis]

theorem text?_padded (h : Heap) (n : Nat) (r : Ref) : (h.padded n).text? r = h.text? r := by
  rw [text?, plain, basis_padded, object_padded, text?, plain]

theorem text?_of_has {t : CodePoints} (has : h.Has r (.str t)) : h.text? r = some t := by
  have basis : h.basis r = r := by
    unfold basis
    rw [has.object]
  rw [text?, plain, basis, has.object]

theorem plain_padded (h : Heap) (n : Nat) (r : Ref) : (h.padded n).plain r = h.plain r := by
  rw [plain, basis_padded, object_padded, plain]

theorem has_of_object {o : Object} (object : h.object r = o) (some' : o ≠ .none) : h.Has r o := by
  unfold Heap.object at object
  cases cell : h.cells[r]? with
  | none =>
    rw [cell] at object
    exact absurd object.symm some'
  | some c =>
    rw [cell] at object
    rw [Has, cell]
    exact congrArg Option.some object

/-- What an object is of a built-in type stays if the object and what it refers to do. -/
theorem plain_of_same (same : h'.object r = h.object r)
    (children : ∀ i ∈ (h.object r).children, h'.object i = h.object i) :
    h'.basis r = h.basis r ∧ h'.plain r = h.plain r := by
  have basis : h'.basis r = h.basis r := by rw [basis, Heap.basis, same]
  refine ⟨basis, ?_⟩
  rw [plain, plain, basis]
  unfold Heap.basis
  split
  · next e base derived => exact children base (by rw [derived]; exact List.mem_singleton_self base)
  · exact same

/-- What someone refers to is of the same built-in type after references were given up. -/
theorem Survives.plain (survives : h.Survives h') {refs : List Ref} (owes : h'.Owes refs) (held : 0 < h'.count r) :
    h'.basis r = h.basis r ∧ h'.plain r = h.plain r := by
  have same := survives.object held
  refine plain_of_same same fun i child => survives.object ?_
  exact owes.count_pos_of_child (has_of_count_pos held) (same ▸ child)

/-- What someone refers to is of the same built-in type in a heap that has grown. -/
theorem Extends.plain (extended : h.Extends h') {refs : List Ref} (owes : h.Owes refs) (held : 0 < h.count r) :
    h'.basis r = h.basis r ∧ h'.plain r = h.plain r := by
  have same {i : Ref} (held : 0 < h.count i) : h'.object i = h.object i :=
    (extended.has (has_of_count_pos held)).object
  exact plain_of_same (same held) fun i child => same (owes.count_pos_of_child (has_of_count_pos held) child)

theorem text?_of_plain_isContainer (container : (h.plain r).IsContainer) : h.text? r = none := by
  unfold text?
  cases object : h.plain r with
  | str t =>
    rw [object] at container
    exact container.elim
  | _ => rfl

theorem basis_of_isContainer {o : Object} (object : h.object r = o) (container : o.IsContainer) :
    h.basis r = r := by
  unfold basis
  rw [object]
  cases o with
  | derived => exact container.elim
  | _ => rfl

/-- A text that someone refers to is one in a heap that has grown. -/
theorem Extends.text? (extended : h.Extends h') {refs : List Ref} (owes : h.Owes refs) (held : 0 < h.count r) :
    h'.text? r = h.text? r := by
  rw [Heap.text?, (extended.plain owes held).2, ← Heap.text?]

/-- What an object is of a built-in type is there with it. -/
theorem Owes.count_basis_pos {refs : List Ref} (owes : h.Owes refs) (held : 0 < h.count r) :
    0 < h.count (h.basis r) := by
  unfold basis
  split
  · next e base derived =>
    have has := has_of_count_pos held
    rw [derived] at has
    exact owes.count_pos_of_child has (List.mem_singleton_self base)
  · exact held

/-- What is owed is there. -/
theorem Owes.has_plain {refs : List Ref} (owes : h.Owes refs) (member : r ∈ refs) : h.Has (h.basis r) (h.plain r) :=
  has_of_count_pos (owes.count_basis_pos (owes.count_pos_of_mem member))

/-- An object whose contents change is of the built-in type that it was. -/
theorem plain_setObject {o o' : Object} (has : h.Has (h.basis r) o) (container' : o'.IsContainer) :
    (h.setObject (h.basis r) o').plain r = o' := by
  have there : (h.setObject (h.basis r) o').object (h.basis r) = o' := (has_setObject has).object
  by_cases self : h.basis r = r
  · rw [self] at there ⊢
    rw [plain, basis_of_isContainer there container', there]
  · have same : (h.setObject (h.basis r) o').object r = h.object r := by
      rw [Heap.object, cells_setObject, if_neg self]
      rfl
    have basis {g : Heap} (same : g.object r = h.object r) : g.basis r = h.basis r := by
      unfold Heap.basis
      rw [same]
    rw [plain, basis same, there]

/-- Counts stay right when an object changes, if the references from outside change with what it refers to. -/
theorem Consistent.setObject {outside outside' : Ref → Nat} {o o' : Object} (consistent : h.Consistent outside)
    (has : h.Has r o) (held : 0 < h.count r)
    (balanced : ∀ q, outside' q + o'.children.count q = outside q + o.children.count q) :
    (h.setObject r o').Consistent outside' := by
  refine ⟨fun q => ?_, fun q none => ?_⟩
  · have changed : (h.setObject r o').references q + _ = _ := references_setObject has q
    have before := consistent.1 q
    have balance := balanced q
    rw [count_setObject]
    omega
  · rw [count_setObject] at none
    have other : ¬ r = q := by
      rintro rfl
      omega
    rw [Heap.object, cells_setObject, if_neg other]
    exact consistent.2 q none

theorem Consistent.padded {outside : Ref → Nat} (consistent : h.Consistent outside) (n : Nat) :
    (h.padded n).Consistent outside := by
  refine ⟨fun q => ?_, fun q none => ?_⟩
  · rw [count_padded, references_padded]
    exact consistent.1 q
  · rw [count_padded] at none
    rw [object_padded]
    exact consistent.2 q none

/-- Which texts there are does not change with what is in a container. -/
theorem text?_setObject {o o' : Object} (has : h.Has r o) (container : o.IsContainer) (container' : o'.IsContainer)
    (q : Ref) : (h.setObject r o').text? q = h.text? q := by
  have there : (h.setObject r o').object r = o' := (has_setObject has).object
  have elsewhere {i : Ref} (other : r ≠ i) : (h.setObject r o').object i = h.object i := by
    rw [Heap.object, cells_setObject, if_neg other]
    rfl
  by_cases self : r = q
  · subst self
    rw [text?_of_plain_isContainer, text?_of_plain_isContainer]
    · rwa [plain, basis_of_isContainer has.object container, has.object]
    · rwa [plain, basis_of_isContainer there container', there]
  · have basis : (h.setObject r o').basis q = h.basis q := by rw [basis, elsewhere self, Heap.basis]
    by_cases base : r = h.basis q
    · rw [text?_of_plain_isContainer, text?_of_plain_isContainer]
      · rwa [plain, ← base, has.object]
      · rwa [plain, basis, ← base, there]
    · rw [text?, text?, plain, plain, basis, elsewhere base]

end Heap

namespace Slot

/-! ## What stands where -/

/-- What stands at a place of an object, where `text` tells which keys are texts. -/
def read (text : Ref → Option CodePoints) : Slot → Object → Option Ref
  | listItem i, o => ((o.places? .list).bind (·[i]?)).join
  | listEnd, o => ((o.places? .list).bind List.getLast?).join
  | tupleItem i, o => ((o.places? .tuple).bind (·[i]?)).join
  | key name, .dict entries => (entries.find? fun e => text e.1 = some (.ofString name)).map (·.2)
  | key _, _ => none

/-- What stands at a place of a container. -/
def item? (h : Heap) (container : Ref) (slot : Slot) : Option Ref := slot.read h.text? (h.plain container)

/-- What goes when something is put at a place of an object; nothing stands after the last item of a list. -/
def leaving (text : Ref → Option CodePoints) (slot : Slot) (o : Object) : List Ref :=
  if slot = listEnd then [] else (slot.read text o).toList

/-- What goes when something is put at a place of a container. -/
def displaced (h : Heap) (container : Ref) (slot : Slot) : List Ref := slot.leaving h.text? (h.plain container)

/-- When an object can be put at a place: the container is of the kind, the index is in range, a tuple is for its
holder alone, and there is memory for what is new. -/
def Fits (h : Heap) (container : Ref) (memory : Memory) : Slot → Prop
  | listItem i => ∃ places, (h.plain container).places? .list = some places ∧ i < places.length
  | listEnd => ∃ places, (h.plain container).places? .list = some places ∧
      memory.room (h.basis container) places.length
  | tupleItem i => (∃ places, (h.plain container).places? .tuple = some places ∧ i < places.length) ∧
      h.count container = 1
  | key name => ∃ entries, h.plain container = .dict entries ∧ memory.object h.cells.size ∧
      ((key name).item? h container = none → memory.room (h.basis container) entries.length)

theorem eq_singleton_of_mem_leaving {text : Ref → Option CodePoints} {slot : Slot} {o : Object} {old : Ref}
    (member : old ∈ slot.leaving text o) : slot.leaving text o = [old] := by
  unfold leaving at member ⊢
  split at member
  · cases member
  · next other =>
    rw [if_neg other, Option.toList_eq_singleton_iff]
    exact Option.mem_toList.1 member

/-! ## How contents change -/

/-- The contents of a container change from `o` to `o'`: the item is there once more, with new keys, and what it
displaces is there once less. -/
structure Changes (h : Heap) (slot : Slot) (item : Ref) (o o' : Object) (keys displaced : List Ref) : Prop where
  container : o.IsContainer
  container' : o'.IsContainer
  parts : (displaced ++ o'.children).Perm (keys ++ item :: o.children)
  leaving : slot.leaving h.text? o = displaced
  lone : keys = [] ∨ displaced = []
  /-- The item stands at the place, if the texts among the keys are what they were and what the new key is. -/
  shown : ∀ text, (∀ q ∈ o.children, q ∈ o'.children → text q = h.text? q) →
    (∀ k ∈ keys, ∀ name, slot = .key name → text k = some (.ofString name)) → slot.read text o' = some item

section

variable {h : Heap} {item : Ref} {places : List (Option Ref)} {entries : List (Ref × Ref)} {i : Nat}

theorem perm_set {place : Option Ref} (found : places[i]? = some place) :
    (place.toList ++ (places.set i (some item)).filterMap id).Perm (item :: places.filterMap id) := by
  induction places generalizing i with
  | nil => cases found
  | cons first places ih =>
    cases i with
    | zero =>
      obtain rfl : first = place := Option.some.inj found
      cases first with
      | none => exact .refl _
      | some old => exact .swap item old _
    | succ i =>
      rw [List.set_cons_succ]
      cases first with
      | none => exact ih found
      | some r => exact List.perm_middle.trans (((ih found).cons r).trans (.swap item r _))

theorem read_itemOf (text : Ref → Option CodePoints) (kind : SequenceKind) (i : Nat) (o : Object) :
    (itemOf kind i).read text o = ((o.places? kind).bind (·[i]?)).join := by cases kind <;> rfl

/-- Lists and tuples have the places of their items in common. -/
theorem changes_item {kind : SequenceKind} {o : Object} {place : Option Ref} (content : o.places? kind = some places)
    (found : places[i]? = some place) :
    Changes h (itemOf kind i) item o (.ofPlaces kind (places.set i (some item))) [] place.toList := by
  obtain ⟨container, children⟩ := Object.of_places? content
  have other : itemOf kind i ≠ listEnd := by cases kind <;> exact nofun
  obtain ⟨inside, -⟩ := List.getElem?_eq_some_iff.1 found
  refine ⟨container, Object.isContainer_ofPlaces _ _, ?_, ?_, .inl rfl, fun text _ _ => ?_⟩
  · rw [Object.children_ofPlaces, children]
    exact perm_set found
  · rw [leaving, if_neg other, read_itemOf, content, Option.bind_some, found, Option.join_some]
  · rw [read_itemOf, Object.places?_ofPlaces, Option.bind_some, List.getElem?_set_self inside, Option.join_some]

theorem changes_listEnd {o : Object} (content : o.places? .list = some places) :
    Changes h .listEnd item o (.ofPlaces .list (places ++ [some item])) [] [] := by
  obtain ⟨container, children⟩ := Object.of_places? content
  refine ⟨container, Object.isContainer_ofPlaces _ _, ?_, rfl, .inl rfl, fun text _ _ => ?_⟩
  · rw [Object.children_ofPlaces, children, List.filterMap_append]
    exact List.perm_append_singleton item _
  · rw [read, Object.places?_ofPlaces, Option.bind_some, List.getLast?_concat, Option.join_some]

/-- An entry that is found stands after others that are not. -/
theorem exists_split {p : Ref × Ref → Bool} (found : entries.findIdx? p = some i) :
    ∃ before e after, entries = before ++ e :: after ∧ i = before.length ∧ p e = true ∧ ∀ e ∈ before, p e = false := by
  induction entries generalizing i with
  | nil => cases found
  | cons e entries ih =>
    rw [List.findIdx?_cons] at found
    cases here : p e with
    | true =>
      simp only [here, if_true, Option.some.injEq] at found
      exact ⟨[], e, entries, rfl, found.symm, here, nofun⟩
    | false =>
      simp only [here, Bool.false_eq_true, if_false, Option.map_eq_some_iff] at found
      obtain ⟨j, found, rfl⟩ := found
      obtain ⟨before, e', after, rfl, rfl, there, others⟩ := ih found
      exact ⟨e :: before, e', after, rfl, rfl, there, List.forall_mem_cons.2 ⟨here, others⟩⟩

theorem modify_split (before after : List (Ref × Ref)) (e : Ref × Ref) (f : Ref × Ref → Ref × Ref) :
    (before ++ e :: after).modify before.length f = before ++ f e :: after := by
  induction before with
  | nil => rfl
  | cons d before ih => exact congrArg (d :: ·) ih

/-- The first entry with a key is found after others without it. -/
theorem find?_split {p : Ref × Ref → Bool} {before after : List (Ref × Ref)} {e : Ref × Ref} (here : p e = true)
    (others : ∀ e ∈ before, p e = false) : (before ++ e :: after).find? p = some e := by
  have none : before.find? p = none := List.find?_eq_none.2 fun e member => by simp [others e member]
  rw [List.find?_append, none, Option.none_or, List.find?_cons_of_pos here]

theorem changes_key {name : String} (found : findKey h entries (.ofString name) = some i) :
    Changes h (.key name) item (.dict entries) (.dict (entries.modify i fun e => (e.1, item))) []
      [(entries.getD i (item, item)).2] := by
  obtain ⟨before, e, after, rfl, rfl, here, others⟩ := exists_split found
  have bound : (before ++ e :: after).getD before.length (item, item) = e := by simp
  rw [modify_split, bound]
  refine ⟨trivial, trivial, ?_, ?_, .inl rfl, fun text known _ => ?_⟩
  · refine List.perm_iff_count.2 fun q => ?_
    simp only [Object.children, List.flatMap_append, List.flatMap_cons, List.count_append, List.count_cons,
      List.count_nil]
    omega
  · rw [leaving, if_neg nofun, read, find?_split here others]
    rfl
  · -- The keys are the texts that they were.
    have key {e' : Ref × Ref} (member : e' ∈ before ++ e :: after) : text e'.1 = h.text? e'.1 := by
      refine known e'.1 (List.mem_flatMap.2 ⟨e', member, List.mem_cons_self⟩) (List.mem_flatMap.2 ?_)
      rcases List.mem_append.1 member with early | late
      · exact ⟨e', List.mem_append_left _ early, List.mem_cons_self⟩
      · rcases List.mem_cons.1 late with rfl | late
        · exact ⟨(e'.1, item), List.mem_append_right _ List.mem_cons_self, List.mem_cons_self⟩
        · exact ⟨e', List.mem_append_right _ (List.mem_cons_of_mem _ late), List.mem_cons_self⟩
    rw [read, find?_split]
    · rfl
    · rw [key (List.mem_append_right before (List.mem_cons_self (a := e)))]
      exact here
    · intro e' member
      rw [key (List.mem_append_left _ member)]
      exact others e' member

theorem changes_newKey {name : String} (k : Ref) (missing : findKey h entries (.ofString name) = none) :
    Changes h (.key name) item (.dict entries) (.dict (entries ++ [(k, item)])) [k] [] := by
  have others := List.findIdx?_eq_none_iff.1 missing
  refine ⟨trivial, trivial, ?_, ?_, .inr rfl, fun text known new => ?_⟩
  · simp only [Object.children, List.flatMap_append, List.flatMap_cons, List.flatMap_nil, List.append_nil,
      List.nil_append]
    exact @List.perm_append_comm _ _ [k, item]
  · have none : entries.find? (fun e => h.text? e.1 = some (.ofString name)) = none :=
      List.find?_eq_none.2 fun e member => by simpa using others e member
    rw [leaving, if_neg nofun, read, none]
    rfl
  · have key {e : Ref × Ref} (member : e ∈ entries) : text e.1 = h.text? e.1 :=
      known e.1 (List.mem_flatMap.2 ⟨e, member, List.mem_cons_self⟩)
        (List.mem_flatMap.2 ⟨e, List.mem_append_left _ member, List.mem_cons_self⟩)
    rw [read, find?_split]
    · rfl
    · exact decide_eq_true (new k List.mem_cons_self name rfl)
    · intro e member
      rw [key member]
      exact others e member

end

/-! ## What becomes of heaps -/

/-- What comes of an attempt to put an object into a container: its contents change, with a new key if there is
one, and what was displaced is given up; or nothing changes but that the reference is given up. -/
def Attempt (h : Heap) (container item : Ref) (slot : Slot) (memory : Memory) : Except Raised Unit × Heap → Prop
  | (.ok _, h') => slot.Fits h container memory ∧ ∃ g keys displaced o' n, h.Gains g keys keys ∧
      (keys = [] ∨ ∃ k name, keys = [k] ∧ slot = .key name ∧ g.Has k (.str (.ofString name)) ∧ h.count k = 0) ∧
      slot.Changes h item (h.plain container) o' keys displaced ∧
      h' = ((g.setObject (h.basis container) o').releaseAll displaced).padded n
  | (.error _, h') => ¬ slot.Fits h container memory ∧ ∃ n, h' = (h.release item).padded n

section

variable {h : Heap} {container item : Ref} {memory : Memory}

/-- What is refused is given up, and with it what was made for it. -/
theorem attempt_refused {slot : Slot} (misfit : ¬ slot.Fits h container memory) (e : Raised) (n : Nat) :
    slot.Attempt h container item memory (.error e, (h.padded n).release item) :=
  ⟨misfit, n, Heap.releaseAll_padded h n [item]⟩

theorem attempt_refused_at_once {slot : Slot} (misfit : ¬ slot.Fits h container memory) (e : Raised) :
    slot.Attempt h container item memory (.error e, h.release item) :=
  ⟨misfit, 0, (Heap.Undone.padded_zero _).symm⟩

/-- An item comes to a place, whether there is another one or none. -/
theorem attempt_replace (kind : SequenceKind) {i : Nat} {places : List (Option Ref)}
    (content : (h.plain container).places? kind = some places)
    (fits : (itemOf kind i).Fits h container memory ↔ i < places.length) :
    (itemOf kind i).Attempt h container item memory (replace h container item kind places i) := by
  unfold replace
  cases found : places[i]? with
  | some place =>
    refine ⟨fits.2 (List.getElem?_eq_some_iff.1 found).1, h, [], place.toList, _, 0, .refl h, .inl rfl,
      changes_item content found, (Heap.Undone.padded_zero _).symm⟩
  | none =>
    refine attempt_refused_at_once (fun inside => ?_) _
    exact absurd (fits.1 inside) (Nat.not_lt.2 (List.getElem?_eq_none_iff.1 found))

/-- An item comes to a place that has none in a list or a tuple that its holder has made for itself. -/
theorem settle_free {kind : SequenceKind} {i : Nat} {places : List (Option Ref)}
    (has : h.Has container (.ofPlaces kind places)) (own : h.count container = 1) (free : places[i]? = some none) :
    (itemOf kind i).settle h container item memory =
      (.ok (), h.setObject container (.ofPlaces kind (places.set i (some item)))) := by
  have basis : h.basis container = container :=
    Heap.basis_of_isContainer has.object (Object.isContainer_ofPlaces kind places)
  have content : (h.plain container).places? kind = some places := by
    rw [Heap.plain, basis, has.object, Object.places?_ofPlaces]
  have replaced : replace h container item kind places i =
      (.ok (), h.setObject container (.ofPlaces kind (places.set i (some item)))) := by
    unfold replace
    rw [free, basis]
    exact congrArg (Prod.mk _) (Heap.releaseAll.eq_1 _)
  unfold settle put
  cases kind with
  | list =>
    simp only [itemOf, content]
    exact replaced
  | tuple =>
    simp only [itemOf, content, if_pos own]
    exact replaced

theorem attempt_listItem (i : Nat) :
    (listItem i).Attempt h container item memory ((listItem i).settle h container item memory) := by
  unfold settle put
  cases content : (h.plain container).places? .list with
  | some places =>
    refine attempt_replace .list content ⟨?_, fun inside => ⟨places, content, inside⟩⟩
    rintro ⟨places', content', inside⟩
    obtain rfl : places = places' := Option.some.inj (content.symm.trans content')
    exact inside
  | none =>
    refine attempt_refused_at_once ?_ _
    rintro ⟨places, content', -⟩
    rw [content] at content'
    cases content'

theorem attempt_tupleItem (i : Nat) :
    (tupleItem i).Attempt h container item memory ((tupleItem i).settle h container item memory) := by
  unfold settle put
  cases content : (h.plain container).places? .tuple with
  | some places =>
    dsimp only
    by_cases own : h.count container = 1
    · rw [if_pos own]
      refine attempt_replace .tuple content ⟨?_, fun inside => ⟨⟨places, content, inside⟩, own⟩⟩
      rintro ⟨⟨places', content', inside⟩, -⟩
      obtain rfl : places = places' := Option.some.inj (content.symm.trans content')
      exact inside
    · rw [if_neg own]
      exact attempt_refused_at_once (fun fits : Fits h container memory (tupleItem i) => own fits.2) _
  | none =>
    refine attempt_refused_at_once ?_ _
    rintro ⟨⟨places, content', -⟩, -⟩
    rw [content] at content'
    cases content'

theorem attempt_listEnd (held : 0 < h.count item) :
    listEnd.Attempt h container item memory (listEnd.settle h container item memory) := by
  unfold settle put
  cases content : (h.plain container).places? .list with
  | some places =>
    dsimp only
    by_cases room : memory.room (h.basis container) places.length
    · rw [if_pos room]
      refine ⟨⟨places, content, room⟩, h, [], [], _, 0, .refl h, .inl rfl, changes_listEnd content, ?_⟩
      -- The list has taken a reference of its own.
      rw [Heap.Undone.padded_zero, Heap.releaseAll, Heap.setObject_retain]
      exact Heap.release_retain (by rwa [Heap.count_setObject])
    · rw [if_neg room]
      refine attempt_refused_at_once ?_ _
      rintro ⟨places', content', room'⟩
      obtain rfl : places = places' := Option.some.inj (content.symm.trans content')
      exact room room'
  | none =>
    refine attempt_refused_at_once ?_ _
    rintro ⟨places, content', -⟩
    rw [content] at content'
    cases content'

/-- A dictionary that has a key takes a reference to the item, and that to the text made for the key goes. -/
theorem release_bound {b old : Ref} {o o' text : Object} (has : h.Has b o) (childless : text.children = [])
    (held : 0 < h.count item) :
    (((((h.alloc text).2.retain item).setObject b o').release old).release (h.alloc text).1).release item =
      ((h.setObject b o').releaseAll [old]).padded 1 := by
  have grown : 0 < ((h.alloc text).2.setObject b o').count item := by
    rw [Heap.count_setObject]
    exact Nat.lt_of_lt_of_le held ((Heap.extends_alloc h text).count item)
  have key : (h.alloc text).1 = ((h.setObject b o').alloc text).1 := Array.size_modify.symm
  have order : ([old] ++ ([(h.alloc text).1] ++ [item])).Perm ([item] ++ ([(h.alloc text).1] ++ [old])) :=
    (List.Perm.swap _ _ _).trans (((List.Perm.swap _ _ _).cons _).trans (List.Perm.swap _ _ _))
  have parted (g : Heap) : ((g.release old).release (h.alloc text).1).release item =
      ((g.release item).release (h.alloc text).1).releaseAll [old] := by
    unfold Heap.release
    rw [← Heap.releaseAll_append, ← Heap.releaseAll_append, Heap.releaseAll_perm g order, Heap.releaseAll_append,
      Heap.releaseAll_append]
  rw [parted, Heap.setObject_retain, Heap.release_retain grown, Heap.setObject_alloc has, key,
    Heap.release_alloc _ childless, Heap.releaseAll_padded]

/-- A dictionary that has not got a key takes references to it and to the item. -/
theorem release_added {g : Heap} {b k : Ref} {o' : Object} (held : 0 < g.count item) (held' : 0 < g.count k) :
    ((((g.retain k).retain item).setObject b o').release k).release item = g.setObject b o' := by
  have grown : 0 < (g.setObject b o').count k := by rwa [Heap.count_setObject]
  have grown' : 0 < ((g.setObject b o').retain k).count item := by
    refine Nat.lt_of_lt_of_le ?_ ((Heap.extends_retain _ k).count item)
    rwa [Heap.count_setObject]
  have parted (g : Heap) : (g.release k).release item = (g.release item).release k := by
    unfold Heap.release
    rw [← Heap.releaseAll_append, Heap.releaseAll_perm g List.perm_append_comm, Heap.releaseAll_append]
  rw [parted, Heap.setObject_retain, Heap.setObject_retain, Heap.release_retain grown', Heap.release_retain grown]

/-- A key is looked for among texts that are there. -/
theorem findKey_congr {h g : Heap} {entries : List (Ref × Ref)} (same : ∀ e ∈ entries, g.text? e.1 = h.text? e.1)
    (t : CodePoints) : findKey g entries t = findKey h entries t := by
  unfold findKey
  induction entries with
  | nil => rfl
  | cons e entries ih =>
    obtain ⟨head, tail⟩ := List.forall_mem_cons.1 same
    rw [List.findIdx?_cons, List.findIdx?_cons, head, ih tail]

theorem item?_key {entries : List (Ref × Ref)} (plain : h.plain container = .dict entries) (name : String) :
    (key name).item? h container = none ↔ findKey h entries (.ofString name) = none := by
  rw [item?, plain, read, Option.map_eq_none_iff, findKey, List.findIdx?_eq_none_iff, List.find?_eq_none]
  simp only [Bool.not_eq_true]

theorem put_key (name : String) :
    put h container item (key name) memory =
      if memory.object h.cells.size then
        let made := h.alloc (.str (.ofString name))
        let bound := bind made.2 container made.1 item (.ofString name) memory
        (bound.1, bound.2.release made.1)
      else (.error .exhausted, h) := by
  have tried : h.tryNew (.str (.ofString name)) memory =
      if memory.object h.cells.size then (.ok h.cells.size, (h.alloc (.str (.ofString name))).2)
      else (.error .exhausted, h) := rfl
  unfold put
  dsimp only
  rw [tried]
  by_cases enough : memory.object h.cells.size
  · rw [if_pos enough, if_pos enough]
    rfl
  · rw [if_neg enough, if_neg enough]

theorem settle_key (name : String) (enough : memory.object h.cells.size) :
    (key name).settle h container item memory =
      let made := h.alloc (.str (.ofString name))
      let bound := bind made.2 container made.1 item (.ofString name) memory
      (bound.1, (bound.2.release made.1).release item) := by
  unfold settle
  rw [put_key, if_pos enough]
  rfl

/-- A new key changes nothing of a dictionary that is there. -/
theorem dict_alloc (owes : h.Owes [container, item]) (text : Object) (childless : text.children = [])
    {entries : List (Ref × Ref)} (content : h.plain container = .dict entries) :
    (h.alloc text).2.plain container = .dict entries ∧ (h.alloc text).2.basis container = h.basis container ∧
      ∀ t, findKey (h.alloc text).2 entries t = findKey h entries t := by
  have grown := (Heap.gains_alloc h childless).grown
  obtain ⟨basis, plain⟩ := grown.plain owes (owes.count_pos_of_mem List.mem_cons_self)
  have has : h.Has (h.basis container) (.dict entries) := Heap.has_of_object content nofun
  refine ⟨plain.trans content, basis, fun t => findKey_congr (fun e member => ?_) t⟩
  exact grown.text? owes (owes.count_pos_of_child has (List.mem_flatMap.2 ⟨e, member, List.mem_cons_self⟩))

section

variable {entries : List (Ref × Ref)} {name : String}

/-- Another item is bound to a key. -/
theorem attempt_boundKey {i : Nat} (owes : h.Owes [container, item]) (enough : memory.object h.cells.size)
    (content : h.plain container = .dict entries) (found : findKey h entries (.ofString name) = some i) :
    (key name).Attempt h container item memory ((key name).settle h container item memory) := by
  have held : 0 < h.count item := owes.count_pos_of_mem (List.mem_cons_of_mem _ List.mem_cons_self)
  have has : h.Has (h.basis container) (.dict entries) := Heap.has_of_object content nofun
  obtain ⟨plain, basis, same⟩ := dict_alloc owes (.str (.ofString name)) rfl content
  have changes : Changes h (key name) item (.dict entries) _ [] _ := changes_key found
  rw [← content] at changes
  rw [settle_key name enough]
  unfold bind
  simp only [plain, same, found, basis]
  refine ⟨⟨entries, content, enough, fun missing => ?_⟩, h, [], _, _, 1, .refl h, .inl rfl, changes, ?_⟩
  · rw [item?_key content, found] at missing
    cases missing
  · exact release_bound has rfl held

/-- A key that is not there is bound, if there is memory for it. -/
theorem settle_newKey {b : Ref} (content : (h.alloc (.str (.ofString name))).2.plain container = .dict entries)
    (basis : (h.alloc (.str (.ofString name))).2.basis container = b)
    (missing : findKey (h.alloc (.str (.ofString name))).2 entries (.ofString name) = none) (held : 0 < h.count item)
    (enough : memory.object h.cells.size) :
    (key name).settle h container item memory =
      if memory.room b entries.length then
        (.ok (), (h.alloc (.str (.ofString name))).2.setObject b
          (.dict (entries ++ [((h.alloc (.str (.ofString name))).1, item)])))
      else (.error .exhausted, (h.padded 1).release item) := by
  have gained : h.Gains (h.alloc (.str (.ofString name))).2 [_] [_] := Heap.gains_alloc h rfl
  rw [settle_key name enough]
  unfold bind
  simp only [content, missing, basis]
  by_cases room : memory.room b entries.length
  · rw [if_pos room, if_pos room]
    refine congrArg (Prod.mk _) (release_added (Nat.lt_of_lt_of_le held (gained.grown.count item)) ?_)
    rw [gained.count, List.count_singleton_self]
    exact Nat.succ_pos _
  · rw [if_neg room, if_neg room, Heap.release_alloc h rfl]

/-- A new key is bound, if there is room. -/
theorem attempt_newKey (owes : h.Owes [container, item]) (enough : memory.object h.cells.size)
    (content : h.plain container = .dict entries) (missing : findKey h entries (.ofString name) = none) :
    (key name).Attempt h container item memory ((key name).settle h container item memory) := by
  have held : 0 < h.count item := owes.count_pos_of_mem (List.mem_cons_of_mem _ List.mem_cons_self)
  let text : Object := .str (.ofString name)
  have gained : h.Gains (h.alloc text).2 [(h.alloc text).1] [(h.alloc text).1] := Heap.gains_alloc h rfl
  obtain ⟨plain, basis, same⟩ := dict_alloc owes text rfl content
  rw [settle_newKey plain basis ((same _).trans missing) held enough]
  by_cases room : memory.room (h.basis container) entries.length
  · rw [if_pos room]
    have changes : Changes h (key name) item (.dict entries) _ _ [] := changes_newKey (h.alloc text).1 missing
    rw [← content] at changes
    have fresh : h.count (h.alloc text).1 = 0 := Heap.count_of_size_le (Nat.le_refl h.cells.size)
    refine ⟨⟨entries, content, enough, fun _ => room⟩, _, _, [], _, 0, gained, ?_, changes, ?_⟩
    · exact .inr ⟨_, name, rfl, rfl, Heap.has_alloc h text, fresh⟩
    · rw [Heap.Undone.padded_zero, Heap.releaseAll]
  · rw [if_neg room]
    refine attempt_refused (fun fits : Fits h container memory (key name) => room ?_) _ 1
    obtain ⟨entries', content', -, room'⟩ := fits
    obtain rfl : entries = entries' := Object.dict.inj (content.symm.trans content')
    exact room' ((item?_key content name).2 missing)

end

theorem attempt_key (owes : h.Owes [container, item]) (name : String) :
    (key name).Attempt h container item memory ((key name).settle h container item memory) := by
  by_cases enough : memory.object h.cells.size
  · cases content : h.plain container with
    | dict entries =>
      cases found : findKey h entries (.ofString name) with
      | some i => exact attempt_boundKey owes enough content found
      | none => exact attempt_newKey owes enough content found
    | _ =>
      have gained : h.Gains (h.alloc (.str (.ofString name))).2 _ _ := Heap.gains_alloc h rfl
      have plain := (gained.grown.plain owes (owes.count_pos_of_mem List.mem_cons_self)).2
      rw [settle_key name enough]
      unfold bind
      simp only [plain, content]
      rw [Heap.release_alloc h rfl]
      refine attempt_refused ?_ _ 1
      rintro ⟨entries, plain', -⟩
      rw [content] at plain'
      cases plain'
  · unfold settle
    rw [put_key, if_neg enough]
    refine attempt_refused_at_once ?_ _
    rintro ⟨entries, -, enough', -⟩
    exact enough enough'

theorem attempt_settle (owes : h.Owes [container, item]) (slot : Slot) :
    slot.Attempt h container item memory (slot.settle h container item memory) := by
  have held : 0 < h.count item := owes.count_pos_of_mem (List.mem_cons_of_mem _ List.mem_cons_self)
  cases slot with
  | listItem i => exact attempt_listItem i
  | listEnd => exact attempt_listEnd held
  | tupleItem i => exact attempt_tupleItem i
  | key name => exact attempt_key owes name

end

/-! ## Accounting for references -/

/-- What has changed where an object was put into a container. -/
structure Inserted (h h' : Heap) (container item : Ref) (slot : Slot) : Prop where
  /-- The object stands at the place. -/
  shown : slot.item? h' container = some item
  /-- The container refers to the object once more and once less to what it displaced.  But for a new key, which
  nothing else refers to, no count has changed until what was displaced is given up. -/
  accounts : ∃ keys : List Ref,
    (keys = [] ∨ ∃ k name, keys = [k] ∧ slot = .key name ∧ h'.Has k (.str (.ofString name)) ∧ h.count k = 0 ∧
      h'.count k = 1) ∧
    (slot.displaced h container ++ (h'.plain container).children).Perm
      (keys ++ item :: (h.plain container).children) ∧
    ∃ g : Heap, (∀ q, g.count q = h.count q + keys.count q) ∧ h' = g.releaseAll (slot.displaced h container)
  /-- What was displaced has one reference less. -/
  displaced : ∀ old ∈ slot.displaced h container, h'.count old + 1 = h.count old

/-- What has changed where an object was refused: it has one reference less, and that is all. -/
structure Refused (h h' : Heap) (container item : Ref) : Prop where
  released : (h.release item).Undone h'
  count : h'.count item + 1 = h.count item
  contents : h'.plain container = h.plain container

/-- What comes of putting an object into a container. -/
def Settled (h : Heap) (container item : Ref) (slot : Slot) (memory : Memory) : Except Raised Unit × Heap → Prop
  | (.ok _, h') => slot.Fits h container memory ∧ slot.Inserted h h' container item
  | (.error _, h') => ¬ slot.Fits h container memory ∧ Refused h h' container item

section

variable {h : Heap} {container item : Ref} {outside : Ref → Nat}

theorem settled_error {slot : Slot} {memory : Memory} (owes : h.Owes [container, item]) {e : Raised} {h' : Heap}
    (attempt : slot.Attempt h container item memory (.error e, h')) :
    slot.Settled h container item memory (.error e, h') := by
  obtain ⟨misfit, n, rfl⟩ := attempt
  have held : 0 < h.count item := owes.count_pos_of_mem (List.mem_cons_of_mem _ List.mem_cons_self)
  have kept : (h.release item).Owes [container] := Heap.Owes.releaseAll (owes.perm (List.Perm.swap _ _ _))
  refine ⟨misfit, ⟨n, rfl⟩, ?_, ?_⟩
  · rw [Heap.count_padded, Heap.count_release]
    omega
  · rw [Heap.plain_padded]
    exact ((Heap.survives_releaseAll h [item]).plain kept (kept.count_pos_of_mem List.mem_cons_self)).2

section

variable {slot : Slot} {g : Heap} {keys displaced : List Ref} {o' : Object}

/-- The counts are right with the contents that have changed, and then what was displaced is owed. -/
theorem consistent_changed (consistent : h.Consistent fun q => outside q + [container, item].count q)
    (gained : h.Gains g keys keys) (changes : slot.Changes h item (h.plain container) o' keys displaced) :
    (g.setObject (h.basis container) o').Consistent fun q => outside q + (displaced ++ [container]).count q := by
  have owes : h.Owes [container, item] := ⟨outside, consistent⟩
  have there : 0 < g.count (h.basis container) :=
    Nat.lt_of_lt_of_le (owes.count_basis_pos (owes.count_pos_of_mem List.mem_cons_self)) (gained.grown.count _)
  have has := gained.grown.has (owes.has_plain List.mem_cons_self)
  refine (gained.consistent consistent).setObject has there fun q => ?_
  have parts := changes.parts.count_eq q
  simp only [List.count_append, List.count_cons, List.count_nil] at parts ⊢
  omega

/-- Whatever comes of it, the item is owed no more and the container still is. -/
theorem consistent_attempt {memory : Memory} {result : Except Raised Unit × Heap}
    (consistent : h.Consistent fun q => outside q + [container, item].count q)
    (attempt : slot.Attempt h container item memory result) :
    result.2.Consistent fun q => outside q + [container].count q := by
  rcases result with ⟨e | _, h'⟩
  · obtain ⟨-, n, rfl⟩ := attempt
    refine Heap.Consistent.padded (Heap.Consistent.releaseAll ?_) n
    have perm : ([item] ++ [container]).Perm [container, item] := List.Perm.swap _ _ _
    simpa only [perm.count_eq] using consistent
  · obtain ⟨-, g, keys, displaced, o', n, gained, -, changes, rfl⟩ := attempt
    exact ((consistent_changed consistent gained changes).releaseAll).padded n

/-- Where there is a new key, it is in the container and nothing is displaced. -/
theorem newKey_changed (changes : slot.Changes h item (h.plain container) o' keys displaced) {k : Ref}
    (new : keys = [k]) : displaced = [] ∧ k ∈ o'.children := by
  have none : displaced = [] := changes.lone.resolve_left (by rw [new]; exact List.cons_ne_nil _ _)
  have perm := changes.parts
  rw [none, new, List.nil_append] at perm
  exact ⟨none, perm.mem_iff.2 List.mem_cons_self⟩

variable (consistent : h.Consistent fun q => outside q + [container, item].count q) (gained : h.Gains g keys keys)
  (changes : slot.Changes h item (h.plain container) o' keys displaced)

include consistent gained changes

theorem owes_changed : ((g.setObject (h.basis container) o').releaseAll displaced).Owes [container] :=
  ⟨outside, (consistent_changed consistent gained changes).releaseAll⟩

/-- The container has the contents that have changed, also after what was displaced is given up. -/
theorem plain_changed : ((g.setObject (h.basis container) o').releaseAll displaced).plain container = o' := by
  have owes : h.Owes [container, item] := ⟨outside, consistent⟩
  have kept := owes_changed consistent gained changes
  have basis : g.basis container = h.basis container :=
    (gained.grown.plain owes (owes.count_pos_of_mem List.mem_cons_self)).1
  rw [((Heap.survives_releaseAll _ displaced).plain kept (kept.count_pos_of_mem List.mem_cons_self)).2, ← basis]
  exact Heap.plain_setObject (basis ▸ gained.grown.has (owes.has_plain List.mem_cons_self)) changes.container'

/-- So are its parts there, with the texts that they are. -/
theorem text?_changed {q : Ref} (part : q ∈ o'.children) :
    ((g.setObject (h.basis container) o').releaseAll displaced).text? q = g.text? q := by
  have owes : h.Owes [container, item] := ⟨outside, consistent⟩
  have kept := owes_changed consistent gained changes
  have plain := plain_changed consistent gained changes
  have there := kept.count_pos_of_child (kept.has_plain List.mem_cons_self) (plain ▸ part)
  rw [Heap.text?, ((Heap.survives_releaseAll _ displaced).plain kept there).2, ← Heap.text?]
  exact Heap.text?_setObject (gained.grown.has (owes.has_plain List.mem_cons_self)) changes.container
    changes.container' q

/-- The item stands at its place. -/
theorem shown_changed
    (named : keys = [] ∨ ∃ k name, keys = [k] ∧ slot = .key name ∧ g.Has k (.str (.ofString name)) ∧ h.count k = 0) :
    slot.item? ((g.setObject (h.basis container) o').releaseAll displaced) container = some item := by
  have owes : h.Owes [container, item] := ⟨outside, consistent⟩
  rw [item?, plain_changed consistent gained changes]
  refine changes.shown _ (fun q before part => ?_) fun k member name same => ?_
  · rw [text?_changed consistent gained changes part,
      gained.grown.text? owes (owes.count_pos_of_child (owes.has_plain List.mem_cons_self) before)]
  · rcases named with none | ⟨k', name', new, same', text, -⟩
    · rw [none] at member
      cases member
    · obtain rfl : k = k' := List.mem_singleton.1 (new ▸ member)
      cases same.symm.trans same'
      rw [text?_changed consistent gained changes (newKey_changed changes new).2]
      exact Heap.text?_of_has text

/-- A new key is the text, and only the container refers to it. -/
theorem has_newKey_changed {k : Ref} {name : String} (new : keys = [k]) (text : g.Has k (.str (.ofString name)))
    (fresh : h.count k = 0) :
    ((g.setObject (h.basis container) o').releaseAll displaced).Has k (.str (.ofString name)) ∧
      ((g.setObject (h.basis container) o').releaseAll displaced).count k = 1 := by
  have owes : h.Owes [container, item] := ⟨outside, consistent⟩
  have other : h.basis container ≠ k := by
    rintro rfl
    have container := changes.container
    rw [(gained.grown.has (owes.has_plain List.mem_cons_self)).unique text] at container
    exact container
  rw [(newKey_changed changes new).1, Heap.releaseAll]
  refine ⟨Heap.has_setObject_of_ne other text, ?_⟩
  rw [Heap.count_setObject, gained.count, fresh, new, List.count_singleton_self]

/-- What was displaced has one reference less. -/
theorem count_displaced_changed {old : Ref} (member : old ∈ displaced) :
    ((g.setObject (h.basis container) o').releaseAll displaced).count old + 1 = h.count old := by
  have one : displaced = [old] := by
    rw [← changes.leaving] at member ⊢
    exact eq_singleton_of_mem_leaving member
  have none : keys = [] := changes.lone.resolve_right (by rw [one]; exact List.cons_ne_nil _ _)
  have before : 0 < (g.setObject (h.basis container) o').count old :=
    Heap.Owes.count_pos_of_mem ⟨outside, consistent_changed consistent gained changes⟩ (List.mem_append_left _ member)
  have count := Heap.count_release (g.setObject (h.basis container) o') old
  rw [Heap.count_setObject, gained.count, none, List.count_nil, Nat.add_zero] at before count
  rw [one, ← Heap.release, count]
  omega

end

theorem item?_padded (slot : Slot) (h : Heap) (n : Nat) (container : Ref) :
    slot.item? (h.padded n) container = slot.item? h container := by
  rw [item?, item?, Heap.plain_padded, funext (Heap.text?_padded h n)]

theorem settled_ok {slot : Slot} {memory : Memory}
    (consistent : h.Consistent fun q => outside q + [container, item].count q) {h' : Heap}
    (attempt : slot.Attempt h container item memory (.ok (), h')) :
    slot.Settled h container item memory (.ok (), h') := by
  obtain ⟨fits, g, keys, displaced, o', n, gained, named, changes, rfl⟩ := attempt
  have lost : slot.displaced h container = displaced := changes.leaving
  refine ⟨fits, ⟨?_, ⟨keys, ?_, ?_, ?_⟩, fun old member => ?_⟩⟩
  · rw [item?_padded]
    exact shown_changed consistent gained changes named
  · refine named.imp_right ?_
    rintro ⟨k, name, new, same, text, fresh⟩
    obtain ⟨has, one⟩ := has_newKey_changed consistent gained changes new text fresh
    exact ⟨k, name, new, same, (Heap.extends_padded _ n).has has, fresh, (Heap.count_padded _ n k).trans one⟩
  · rw [lost, Heap.plain_padded, plain_changed consistent gained changes]
    exact changes.parts
  · refine ⟨(g.setObject (h.basis container) o').padded n, fun q => ?_, ?_⟩
    · rw [Heap.count_padded, Heap.count_setObject, gained.count]
    · rw [lost, Heap.releaseAll_padded]
  · rw [lost] at member
    rw [Heap.count_padded]
    exact count_displaced_changed consistent gained changes member

/-- An object is put into a container or refused, and either way the one who put it there has one reference to it
less: the counts are right without it. -/
theorem settle_settled (consistent : h.Consistent fun q => outside q + [container, item].count q) (slot : Slot)
    (memory : Memory) : slot.Settled h container item memory (slot.settle h container item memory) ∧
      (slot.settle h container item memory).2.Consistent fun q => outside q + [container].count q := by
  have owes : h.Owes [container, item] := ⟨outside, consistent⟩
  have attempt : slot.Attempt h container item memory (slot.settle h container item memory) :=
    attempt_settle owes slot
  refine ⟨?_, consistent_attempt consistent attempt⟩
  generalize slot.settle h container item memory = result at attempt ⊢
  rcases result with ⟨e | _, h'⟩
  · exact settled_error owes attempt
  · exact settled_ok consistent attempt

end

end Slot

end InterpreterHost
