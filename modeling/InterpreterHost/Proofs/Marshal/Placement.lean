import InterpreterHost.Marshal.ToObject
import InterpreterHost.Proofs.Marshal.Insertion
import InterpreterHost.Proofs.Value.Bindings

/-!
# The objects of a value

The objects of a value are a tree in the shape of the value.  It is made whole, or not at all if the
value has an instant in a year that the calendar lacks or if memory runs out; to give it up leaves nothing of it.

A container is there before what is put into it.  While it is filled, nothing but the one who fills it refers to
it, so that it goes with all that it holds by then when the next part cannot be made.  At the places of a list or a
tuple there is nothing before, and no key of a map is in the dictionary before, so that nothing is displaced.

## Main definitions

* `Value.InCalendar` — the calendar has the years of all instants in a value
* `Heap.Holds` — the objects at a place are those of a value
* `Heap.nodes` — which objects these are
* `Heap.Hindrance` — what stands in the way of making objects
* `Heap.Filling` — a container that is being filled
* `Heap.Result` — what comes of making objects

## Main statements

* `Heap.fill_fills`, `Heap.fillEntries_fills` — a container is filled, or left as far as it was filled
* `Heap.place_yields` — the objects of a value are made, or nothing is
* `Heap.placeArguments_result` — so are those of arguments
-/

namespace InterpreterHost

/-- The calendar of the interpreter has the years of the instants. -/
def InCalendar (instants : List Timestamp) : Prop := ∀ t ∈ instants, DateTime.hasYear t.date.year

theorem inCalendar_nil : InCalendar [] := List.forall_mem_nil _

theorem inCalendar_append {instants instants' : List Timestamp} :
    InCalendar (instants ++ instants') ↔ InCalendar instants ∧ InCalendar instants' :=
  List.forall_mem_append

namespace Value

/-- The calendar of the interpreter has the years of all instants in the value. -/
def InCalendar (v : Value) : Prop := InterpreterHost.InCalendar v.timestamps

mutual

/-- How many objects a value becomes; each key is one too. -/
def objects : Value → Nat
  | array items => objectsAll items + 1
  | map entries => objectsEntries entries + 1
  | _ => 1

def objectsAll : List Value → Nat
  | [] => 0
  | v :: items => objects v + objectsAll items

def objectsEntries : List (String × Value) → Nat
  | [] => 0
  | (_, v) :: entries => objects v + 1 + objectsEntries entries

end

end Value

namespace Heap

/-! ## Trees of objects -/

mutual

/-- The objects at a place are those of a value. -/
def Holds (h : Heap) : Value → Ref → Prop
  | .null, r => h.Has r .none
  | .bool b, r => h.Has r (.bool b)
  | .int i, r => h.Has r (.int i.toInt)
  | .float f, r => h.Has r (.float f)
  | .string s, r => h.Has r (.str (.ofString s))
  | .blob bytes, r => h.Has r (.byteArray bytes)
  | .timestamp t, r => h.Has r (.datetime (.ofTimestamp t))
  | .array items, r => ∃ refs, h.Has r (.list refs) ∧ HoldsAll h items refs
  | .map entries, r => ∃ refs, h.Has r (.dict refs) ∧ HoldsEntries h entries refs

def HoldsAll (h : Heap) : List Value → List Ref → Prop
  | [], refs => refs = []
  | v :: items, refs => ∃ r rest, refs = r :: rest ∧ Holds h v r ∧ HoldsAll h items rest

def HoldsEntries (h : Heap) : List (String × Value) → List (Ref × Ref) → Prop
  | [], refs => refs = []
  | (k, v) :: entries, refs => ∃ key r rest, refs = (key, r) :: rest ∧
      h.Has key (.str (.ofString k)) ∧ Holds h v r ∧ HoldsEntries h entries rest

end

/-! ## What a tree consists of -/

mutual

/-- The objects of a value at a place: a container before what is in it, a key before its value. -/
def nodes (h : Heap) : Value → Ref → List Ref
  | .array items, r => r :: nodesAll h items (h.object r).children
  | .map entries, r => r :: nodesEntries h entries (h.object r).children
  | _, r => [r]

def nodesAll (h : Heap) : List Value → List Ref → List Ref
  | v :: items, r :: refs => nodes h v r ++ nodesAll h items refs
  | _, _ => []

def nodesEntries (h : Heap) : List (String × Value) → List Ref → List Ref
  | (_, v) :: entries, key :: r :: refs => key :: nodes h v r ++ nodesEntries h entries refs
  | _, _ => []

end

/-- The objects of an entry come before those of the other entries. -/
theorem nodesEntries_cons (h : Heap) (e : String × Value) (entries : List (String × Value)) (key r : Ref)
    (refs : List (Ref × Ref)) : h.nodesEntries (e :: entries) (((key, r) :: refs).flatMap fun e => [e.1, e.2]) =
      key :: h.nodes e.2 r ++ h.nodesEntries entries (refs.flatMap fun e => [e.1, e.2]) := rfl

section

variable {h : Heap}

theorem HoldsAll.length_nodes {items : List Value}
    (parts : ∀ v ∈ items, ∀ r, h.Holds v r → (h.nodes v r).length = v.objects) {refs : List Ref}
    (holds : h.HoldsAll items refs) : (h.nodesAll items refs).length = Value.objectsAll items := by
  induction items generalizing refs with
  | nil => rfl
  | cons v items ih =>
    obtain ⟨head, tail⟩ := List.forall_mem_cons.1 parts
    obtain ⟨r, rest, rfl, first, others⟩ := holds
    rw [nodesAll, List.length_append, head r first, ih tail others, Value.objectsAll]

theorem HoldsEntries.length_nodes {entries : List (String × Value)}
    (parts : ∀ e ∈ entries, ∀ r, h.Holds e.2 r → (h.nodes e.2 r).length = e.2.objects) {refs : List (Ref × Ref)}
    (holds : h.HoldsEntries entries refs) :
    (h.nodesEntries entries (refs.flatMap fun e => [e.1, e.2])).length = Value.objectsEntries entries := by
  induction entries generalizing refs with
  | nil => rfl
  | cons e entries ih =>
    obtain ⟨head, tail⟩ := List.forall_mem_cons.1 parts
    obtain ⟨key, r, rest, rfl, -, first, others⟩ := holds
    rw [nodesEntries_cons, List.length_append, List.length_cons, head r first, ih tail others, Value.objectsEntries]

/-- There is one node for each object of the value. -/
theorem Holds.length_nodes (v : Value) : ∀ r, h.Holds v r → (h.nodes v r).length = v.objects := by
  induction v using Value.induction with
  | array items parts =>
    rintro r ⟨refs, list, all⟩
    rw [nodes, list.object, List.length_cons, Value.objects]
    exact congrArg (· + 1) (all.length_nodes parts)
  | map entries parts =>
    rintro r ⟨refs, dict, all⟩
    rw [nodes, dict.object, List.length_cons, Value.objects]
    exact congrArg (· + 1) (all.length_nodes parts)
  | _ => exact fun _ _ => rfl

end

/-- The objects are the same in another heap. -/
def Keeps (h h' : Heap) (nodes : List Ref) : Prop := ∀ q ∈ nodes, ∀ o, h.Has q o → h'.Has q o

section

variable {h h' : Heap} {r : Ref}

theorem Extends.keeps (extended : h.Extends h') (nodes : List Ref) : h.Keeps h' nodes :=
  fun _ _ _ has => extended.has has

theorem keeps_append {nodes nodes' : List Ref} :
    h.Keeps h' (nodes ++ nodes') ↔ h.Keeps h' nodes ∧ h.Keeps h' nodes' := List.forall_mem_append

theorem keeps_cons {nodes : List Ref} :
    h.Keeps h' (r :: nodes) ↔ (∀ o, h.Has r o → h'.Has r o) ∧ h.Keeps h' nodes := List.forall_mem_cons

theorem Keeps.trans {h'' : Heap} {nodes : List Ref} (first : h.Keeps h' nodes) (second : h'.Keeps h'' nodes) :
    h.Keeps h'' nodes := fun q member o has => second q member o (first q member o has)

/-- A heap that has the objects of a value as another one has them. -/
def HasAlike (h h' : Heap) (v : Value) : Prop :=
  ∀ r, h.Holds v r → h.Keeps h' (h.nodes v r) → h'.Holds v r ∧ h'.nodes v r = h.nodes v r

theorem HoldsAll.keeps {items : List Value} (parts : ∀ v ∈ items, HasAlike h h' v) {refs : List Ref}
    (holds : h.HoldsAll items refs) (kept : h.Keeps h' (h.nodesAll items refs)) :
    h'.HoldsAll items refs ∧ h'.nodesAll items refs = h.nodesAll items refs := by
  induction items generalizing refs with
  | nil => exact ⟨holds, rfl⟩
  | cons v items ih =>
    obtain ⟨head, tail⟩ := List.forall_mem_cons.1 parts
    obtain ⟨r, rest, rfl, first, others⟩ := holds
    rw [nodesAll] at kept
    obtain ⟨kept, kept'⟩ := keeps_append.1 kept
    obtain ⟨first', same⟩ := head r first kept
    obtain ⟨others', same'⟩ := ih tail others kept'
    exact ⟨⟨r, rest, rfl, first', others'⟩, by rw [nodesAll, nodesAll, same, same']⟩

theorem HoldsEntries.keeps {entries : List (String × Value)} (parts : ∀ e ∈ entries, HasAlike h h' e.2)
    {refs : List (Ref × Ref)} (holds : h.HoldsEntries entries refs)
    (kept : h.Keeps h' (h.nodesEntries entries (refs.flatMap fun e => [e.1, e.2]))) :
    h'.HoldsEntries entries refs ∧ h'.nodesEntries entries (refs.flatMap fun e => [e.1, e.2]) =
      h.nodesEntries entries (refs.flatMap fun e => [e.1, e.2]) := by
  induction entries generalizing refs with
  | nil => exact ⟨holds, rfl⟩
  | cons e entries ih =>
    obtain ⟨head, tail⟩ := List.forall_mem_cons.1 parts
    obtain ⟨key, r, rest, rfl, named, first, others⟩ := holds
    rw [nodesEntries_cons] at kept
    obtain ⟨kept, kept'⟩ := keeps_append.1 kept
    obtain ⟨key', kept⟩ := keeps_cons.1 kept
    obtain ⟨first', same⟩ := head r first kept
    obtain ⟨others', same'⟩ := ih tail others kept'
    exact ⟨⟨key, r, rest, rfl, key' _ named, first', others'⟩, by simp only [nodesEntries_cons, same, same']⟩

/-- The objects of a value are there, and are the same ones, in a heap that keeps them. -/
theorem Holds.keeps (v : Value) : HasAlike h h' v := by
  induction v using Value.induction with
  | array items parts =>
    rintro r ⟨refs, list, all⟩ kept
    rw [nodes, list.object] at kept
    obtain ⟨root, kept⟩ := keeps_cons.1 kept
    obtain ⟨all', same⟩ := all.keeps parts kept
    refine ⟨⟨refs, root _ list, all'⟩, ?_⟩
    rw [nodes, nodes, list.object, (root _ list).object]
    exact congrArg (r :: ·) same
  | map entries parts =>
    rintro r ⟨refs, dict, all⟩ kept
    rw [nodes, dict.object] at kept
    obtain ⟨root, kept⟩ := keeps_cons.1 kept
    obtain ⟨all', same⟩ := all.keeps parts kept
    refine ⟨⟨refs, root _ dict, all'⟩, ?_⟩
    rw [nodes, nodes, dict.object, (root _ dict).object]
    exact congrArg (r :: ·) same
  | _ => exact fun r has kept => ⟨kept r List.mem_cons_self _ has, rfl⟩

/-- The objects of a value stay as they are in a heap that grows. -/
theorem Holds.extends (extended : h.Extends h') (v : Value) (r : Ref) (holds : h.Holds v r) : h'.Holds v r :=
  (Holds.keeps v r holds (extended.keeps _)).1

theorem HoldsAll.extends (extended : h.Extends h') {items : List Value} {refs : List Ref}
    (holds : h.HoldsAll items refs) : h'.HoldsAll items refs :=
  (holds.keeps (fun v _ => Holds.keeps v) (extended.keeps _)).1

end

/-! ## Making them -/

/-- What stands in the way of making objects, and what is raised then: the calendar lacks a year, or memory runs
out. -/
def Hindrance (possible : Prop) (memory : Memory) (e : Raised) : Prop :=
  (¬ possible ∧ ∃ year, e = DateTime.noYear year) ∨ (¬ memory.IsEnough ∧ e = .exhausted)

theorem Hindrance.imp {possible possible' : Prop} {memory : Memory} {e : Raised}
    (hindrance : Hindrance possible memory e)
    (needed : possible' → possible) : Hindrance possible' memory e :=
  Or.imp_left (And.imp_left (mt needed)) hindrance

/-- Where there is memory for everything it is the calendar. -/
theorem Hindrance.impossible {possible : Prop} {memory : Memory} {e : Raised} (hindrance : Hindrance possible memory e)
    (enough : memory.IsEnough) : ¬ possible ∧ ∃ year, e = DateTime.noYear year :=
  hindrance.resolve_right fun short => short.1 enough

/-- What comes of making objects, told by the objects: the outermost is owed, and each is referred to once for
each time that it is listed; or nothing has come of it, since something stands in the way. -/
def Result (h : Heap) (possible : Prop) (memory : Memory) (holds : Heap → Ref → Prop)
    (nodes : Heap → Ref → List Ref) : Except Raised Ref × Heap → Prop
  | (.ok r, h') => possible ∧ holds h' r ∧ h.Gains h' [r] (nodes h' r)
  | (.error e, h') => Hindrance possible memory e ∧ h.Undone h'

/-- An object is made as it is where there is memory for it, or nothing is. -/
theorem tryNew_cases (h : Heap) (o : Object) (memory : Memory) :
    h.tryNew o memory = (.ok (h.new o).1, (h.new o).2) ∨
      ¬ memory.IsEnough ∧ h.tryNew o memory = (.error .exhausted, h) := by
  unfold tryNew new
  cases singleton? o with
  | some r => exact .inl rfl
  | none =>
    dsimp only
    split
    · exact .inl rfl
    · next short => exact .inr ⟨fun enough => short (enough.object _), rfl⟩

/-- What is to be shown of making the objects of parts. -/
def Yields (v : Value) : Prop :=
  ∀ (h : Heap) (memory : Memory), h.HasSingletons → v.Distinct →
    h.Result v.InCalendar memory (fun h r => h.Holds v r) (fun h r => h.nodes v r) (h.place memory v)

theorem yields_leaf {v : Value} (o : Object) (childless : o.children = []) (possible : v.InCalendar)
    (placed : ∀ h memory, place h memory v = h.tryNew o memory) (alone : ∀ (h : Heap) r, h.nodes v r = [r])
    (holds : ∀ (h : Heap) r, h.Has r o → h.Holds v r) : Yields v := by
  intro h memory singles _
  rw [placed]
  obtain made | ⟨short, failed⟩ := tryNew_cases h o memory
  · rw [made]
    refine ⟨possible, holds _ _ (has_new singles o), ?_⟩
    dsimp only
    rw [alone]
    exact gains_new singles childless
  · rw [failed]
    exact ⟨.inr ⟨short, rfl⟩, .refl h⟩

/-- A container that is being filled: nothing but the reference that is owed keeps it, and `nodes` were put
into it, with what they consist of. -/
structure Filling (h g : Heap) (container : Ref) (o : Object) (nodes : List Ref) : Prop where
  gained : h.Gains g [container] (container :: nodes)
  has : g.Has container o
  fresh : h.cells.size ≤ container
  last : g.count container = 1
  singles : h.HasSingletons
  many : singleton? o = none

namespace Filling

variable {h g g' : Heap} {c : Ref} {o o' : Object} {done parts more : List Ref}

theorem hasSingletons (filling : h.Filling g c o done) : g.HasSingletons :=
  filling.gained.grown.hasSingletons filling.singles

/-- What is made meanwhile is not the container. -/
theorem not_mem (filling : h.Filling g c o done) (made : g.Gains g' parts more) : c ∉ more := by
  intro member
  rcases made.new c member with ⟨beyond, -⟩ | single
  · exact Nat.lt_irrefl _ (Nat.lt_of_lt_of_le filling.has.lt_size beyond)
  · exact not_singleton_of_has filling.hasSingletons filling.has filling.many single

/-- The container is not among what was put into it. -/
theorem not_mem_done (filling : h.Filling g c o done) : c ∉ done := by
  intro member
  have listed : 0 < done.count c := List.count_pos_iff.2 member
  have count := filling.gained.count c
  rw [filling.last, List.count_cons_self] at count
  omega

/-- A new container is empty. -/
theorem start (singles : h.HasSingletons) (many : singleton? o = none) (empty : o.children = []) :
    h.Filling (h.new o).2 (h.new o).1 o [] := by
  have gained := gains_new singles empty
  have has := has_new singles o
  have new : h.new o = h.alloc o := by rw [Heap.new, many]
  rw [new] at gained has ⊢
  have before : h.count (h.alloc o).1 = 0 := count_of_size_le (Nat.le_refl h.cells.size)
  have count := gained.count (h.alloc o).1
  rw [List.count_singleton_self, before] at count
  exact ⟨gained, has, Nat.le_refl _, count, singles, many⟩

/-- What could not be made leaves the container as it is. -/
theorem of_undone (filling : h.Filling g c o done) (undone : g.Undone g') : h.Filling g' c o done := by
  have kept := filling.gained.of_undone undone
  have same := (filling.gained.count c).trans (kept.count c).symm
  refine { filling with gained := kept, has := ?_, last := same ▸ filling.last }
  obtain ⟨n, rfl⟩ := undone
  rw [Has, cells_padded, if_pos filling.has.lt_size]
  exact filling.has

/-- What was made is put into the container, where it stays as it is, with what was there before. -/
theorem adopt (filling : h.Filling g c o done) (made : g.Gains g' parts more)
    (children : o'.children = o.children ++ parts) (many : singleton? o' = none) :
    h.Filling (g'.setObject c o') c o' (done ++ more) ∧ g.Keeps (g'.setObject c o') done ∧
      g'.Keeps (g'.setObject c o') more := by
  have other := filling.not_mem made
  have has := made.grown.has filling.has
  have last : g'.count c = 1 := by rw [made.count, filling.last, List.count_eq_zero_of_not_mem other]
  have kept (nodes : List Ref) (outside : c ∉ nodes) : g'.Keeps (g'.setObject c o') nodes :=
    fun q member _ has => has_setObject_of_ne (fun same => outside (same ▸ member)) has
  refine ⟨⟨filling.gained.adopt made filling.fresh has last children, has_setObject has, filling.fresh, ?_,
    filling.singles, many⟩, ?_, kept more other⟩
  · rw [count_setObject, last]
  · exact (made.grown.keeps done).trans (kept done filling.not_mem_done)

end Filling

/-- What comes of filling a container further, with objects that hold what they are to hold. -/
def Fills (h g : Heap) (container : Ref) (possible : Prop) (memory : Memory) (done : List Ref)
    (holds : Heap → Object → List Ref → Prop) : Except Raised Unit × Heap → Prop
  | (.ok (), g') => possible ∧ g.Keeps g' done ∧
      ∃ o more, h.Filling g' container o (done ++ more) ∧ holds g' o more
  | (.error e, g') => Hindrance possible memory e ∧ ∃ o done, h.Filling g' container o done

section

variable {h g : Heap} {c : Ref} {memory : Memory} {done : List Ref}

/-- Something is put into the container, and then it is filled further. -/
theorem Fills.cons {g₁ : Heap} {first others possible : Prop} {more : List Ref}
    {holds holds' : Heap → Object → List Ref → Prop} {result : Except Raised Unit × Heap}
    (rest : h.Fills g₁ c others memory (done ++ more) holds' result) (possible_iff : possible ↔ first ∧ others)
    (made : first) (kept : g.Keeps g₁ done)
    (weaker : ∀ g' o rest, g₁.Keeps g' more → holds' g' o rest → holds g' o (more ++ rest)) :
    h.Fills g c possible memory done holds result := by
  rcases result with ⟨e | _, g'⟩
  · exact ⟨rest.1.imp fun all => (possible_iff.1 all).2, rest.2⟩
  · obtain ⟨possible', kept', o, rest, filling, holds⟩ := rest
    obtain ⟨kept₁, kept₂⟩ := keeps_append.1 kept'
    refine ⟨possible_iff.2 ⟨made, possible'⟩, kept.trans kept₁, o, more ++ rest, ?_, weaker g' o rest kept₂ holds⟩
    rwa [← List.append_assoc]

theorem singleton?_ofPlaces (kind : SequenceKind) (places : List (Option Ref)) :
    singleton? (.ofPlaces kind places) = none := by
  unfold Object.ofPlaces
  split
  · cases kind <;> rfl
  · rfl

/-- The places of a container some of which are filled: those after them are free. -/
def placesOf (refs : List Ref) (free : Nat) : List (Option Ref) := refs.map some ++ List.replicate free none

theorem filterMap_placesOf (refs : List Ref) (free : Nat) : (placesOf refs free).filterMap id = refs := by
  rw [placesOf, List.filterMap_append, List.filterMap_map, List.filterMap_replicate_of_none rfl, List.append_nil]
  exact List.filterMap_some

theorem getElem?_placesOf (refs : List Ref) (free : Nat) : (placesOf refs (free + 1))[refs.length]? = some none := by
  rw [placesOf, List.getElem?_append_right (Nat.le_of_eq (List.length_map _)), List.length_map, Nat.sub_self]
  rfl

theorem set_placesOf (refs : List Ref) (free : Nat) (r : Ref) :
    (placesOf refs (free + 1)).set refs.length (some r) = placesOf (refs ++ [r]) free := by
  rw [placesOf, placesOf, List.set_append_right _ _ (Nat.le_of_eq (List.length_map _)), List.length_map, Nat.sub_self,
    List.map_append, List.append_assoc]
  rfl

/-- A list or a tuple is filled with the objects of values. -/
theorem fill_fills (kind : SequenceKind) {items : List Value} (parts : ∀ v ∈ items, Yields v)
    (distinct : ∀ v ∈ items, v.Distinct) (refs : List Ref)
    (filling : h.Filling g c (.ofPlaces kind (placesOf refs items.length)) done) :
    h.Fills g c (InCalendar (Value.timestampsAll items)) memory done
      (fun g' o more => ∃ refs', o = kind.of (refs ++ refs') ∧ g'.HoldsAll items refs' ∧
        more = g'.nodesAll items refs') (g.fill memory kind c refs.length items) := by
  induction items generalizing g refs done with
  | nil =>
    rw [List.length_nil, placesOf, List.replicate_zero, List.append_nil, Object.ofPlaces_map_some] at filling
    refine ⟨inCalendar_nil, fun _ _ _ => id, kind.of refs, [], ?_, [], ?_, rfl, rfl⟩
    · rwa [List.append_nil]
    · rw [List.append_nil]
  | cons v items ih =>
    obtain ⟨head, tail⟩ := List.forall_mem_cons.1 parts
    obtain ⟨distinct, distincts⟩ := List.forall_mem_cons.1 distinct
    have first := head g memory filling.hasSingletons distinct
    rw [List.length_cons] at filling
    rw [fill]
    generalize g.place memory v = made at first ⊢
    rcases made with ⟨e | r, g₁⟩
    · obtain ⟨hindrance, undone⟩ := first
      refine ⟨hindrance.imp fun possible => ?_, _, done, filling.of_undone undone⟩
      rw [Value.timestampsAll, inCalendar_append] at possible
      exact possible.1
    · obtain ⟨possible, holds, gained⟩ := first
      have own : g₁.count c = 1 := by
        rw [gained.count, filling.last, List.count_eq_zero_of_not_mem (filling.not_mem gained)]
      have children : (Object.ofPlaces kind (placesOf (refs ++ [r]) items.length)).children =
          (Object.ofPlaces kind (placesOf refs (items.length + 1))).children ++ [r] := by
        simp only [Object.children_ofPlaces, filterMap_placesOf]
      obtain ⟨filling₁, kept, kept'⟩ := filling.adopt gained children (singleton?_ofPlaces _ _)
      have next := ih tail distincts (refs ++ [r]) filling₁
      rw [List.length_append, List.length_singleton] at next
      dsimp only at kept' ⊢
      rw [Slot.settle_free (gained.grown.has filling.has) own (getElem?_placesOf refs items.length), set_placesOf]
      refine next.cons inCalendar_append possible kept ?_
      rintro g' o rest kept'' ⟨refs', rfl, others, rfl⟩
      obtain ⟨holds', same⟩ := Holds.keeps v r holds (kept'.trans kept'')
      refine ⟨r :: refs', by rw [List.append_assoc, List.singleton_append], ⟨r, refs', rfl, holds', others⟩, ?_⟩
      rw [nodesAll, same]

/-- The keys of a dictionary are texts, none of which is a key of what is still to come. -/
def KeysApart (g : Heap) (refs : List (Ref × Ref)) (entries : ValueMap) : Prop :=
  ∀ e ∈ refs, ∃ k, g.Has e.1 (.str (.ofString k)) ∧ k ∉ Entries.keys entries

theorem KeysApart.missing {refs : List (Ref × Ref)} {entries : ValueMap} {e : String × Value}
    (apart : g.KeysApart refs (e :: entries)) : Slot.findKey g refs (.ofString e.1) = none := by
  refine List.findIdx?_eq_none_iff.2 fun entry member => ?_
  obtain ⟨k, text, other⟩ := apart entry member
  have different : k ≠ e.1 := fun same => other (same ▸ List.mem_cons_self)
  rw [text?_of_has text, decide_eq_false_iff_not, Option.some_inj]
  exact fun same => different (CodePoints.ofString_inj.1 same)

theorem KeysApart.extends {g' : Heap} {refs : List (Ref × Ref)} {entries : ValueMap} (apart : g.KeysApart refs entries)
    (grown : g.Extends g') : g'.KeysApart refs entries := fun entry member =>
  (apart entry member).imp fun _ text => ⟨grown.has text.1, text.2⟩

/-- What was made for an entry is given up where there is no memory to put it into the dictionary, or it is put
there under a new key. -/
theorem settle_newEntry (memory : Memory) {g₁ : Heap} {r : Ref} {nodes : List Ref} {refs : List (Ref × Ref)}
    {k : String}
    (made : g.Gains g₁ [r] nodes) (has : g₁.Has c (.dict refs)) (held : 0 < g₁.count r)
    (missing : Slot.findKey (g₁.alloc (.str (.ofString k))).2 refs (.ofString k) = none) :
    (Slot.key k).settle g₁ c r memory = (.ok (), (g₁.alloc (.str (.ofString k))).2.setObject c
        (.dict (refs ++ [((g₁.alloc (.str (.ofString k))).1, r)]))) ∨
      ¬ memory.IsEnough ∧ ∃ g₂, g.Undone g₂ ∧ (Slot.key k).settle g₁ c r memory = (.error .exhausted, g₂) := by
  have undone (n : Nat) : g.Undone ((g₁.padded n).release r) := by
    rw [release, releaseAll_padded]
    exact made.undone.trans ⟨n, rfl⟩
  by_cases enough : memory.object g₁.cells.size
  · have has' : (g₁.alloc (.str (.ofString k))).2.object c = .dict refs := ((extends_alloc g₁ _).has has).object
    have basis := basis_of_isContainer has' trivial
    have content : (g₁.alloc (.str (.ofString k))).2.plain c = .dict refs := by rw [plain, basis, has']
    rw [Slot.settle_newKey content basis missing held enough]
    by_cases room : memory.room c refs.length
    · rw [if_pos room]
      exact .inl rfl
    · rw [if_neg room]
      exact .inr ⟨fun whole => room (whole.room _ _), _, undone 1, rfl⟩
  · refine .inr ⟨fun whole => enough (whole.object _), g₁.release r, ?_, ?_⟩
    · exact made.undone
    · unfold Slot.settle
      rw [Slot.put_key, if_neg enough]
      rfl

/-- A dictionary is filled with the objects of entries. -/
theorem fillEntries_fills {entries : ValueMap} (parts : ∀ e ∈ entries, Yields e.2)
    (distinct : ∀ e ∈ entries, e.2.Distinct) (keys : Entries.Distinct entries) {refs : List (Ref × Ref)}
    (apart : g.KeysApart refs entries) (filling : h.Filling g c (.dict refs) done) :
    h.Fills g c (InCalendar (Value.timestampsEntries entries)) memory done
      (fun g' o more => ∃ refs', o = .dict (refs ++ refs') ∧ g'.HoldsEntries entries refs' ∧
        more = g'.nodesEntries entries (refs'.flatMap fun e => [e.1, e.2])) (g.fillEntries memory c entries) := by
  induction entries generalizing g refs done with
  | nil =>
    refine ⟨inCalendar_nil, fun _ _ _ => id, .dict refs, [], ?_, [], ?_, rfl, rfl⟩
    · rwa [List.append_nil]
    · rw [List.append_nil]
  | cons e entries ih =>
    obtain ⟨k, v⟩ := e
    obtain ⟨head, tail⟩ := List.forall_mem_cons.1 parts
    obtain ⟨distinct, distincts⟩ := List.forall_mem_cons.1 distinct
    obtain ⟨fresh, keys⟩ : k ∉ Entries.keys entries ∧ Entries.Distinct entries := List.nodup_cons.1 keys
    have first := head g memory filling.hasSingletons distinct
    dsimp only at first
    rw [fillEntries]
    generalize g.place memory v = made at first ⊢
    rcases made with ⟨e | r, g₁⟩
    · obtain ⟨hindrance, undone⟩ := first
      refine ⟨hindrance.imp fun possible => ?_, .dict refs, done, filling.of_undone undone⟩
      rw [Value.timestampsEntries, inCalendar_append] at possible
      exact possible.1
    · obtain ⟨possible, holds, gained⟩ := first
      have keyed : g₁.Gains (g₁.alloc (.str (.ofString k))).2 _ _ := gains_alloc g₁ rfl
      have named := has_alloc g₁ (.str (.ofString k))
      have apart₂ := (apart.extends gained.grown).extends keyed.grown
      have held : 0 < g₁.count r := by
        have listed : r ∈ g₁.nodes v r := by cases v <;> exact List.mem_cons_self
        rw [gained.count]
        exact Nat.lt_of_lt_of_le (List.count_pos_iff.2 listed) (Nat.le_add_left _ _)
      dsimp only
      obtain bound | ⟨short, g₂, undone, failed⟩ := settle_newEntry memory gained
        (gained.grown.has filling.has) held apart₂.missing
      · rw [bound]
        generalize g₁.alloc (.str (.ofString k)) = made at keyed named apart₂ ⊢
        obtain ⟨key, g₂⟩ := made
        -- The key is listed before what its value consists of, though it was made after it.
        have both : g.Gains g₂ [key, r] (key :: g₁.nodes v r) :=
          (gained.trans keyed).perm (List.perm_append_singleton _ _)
        have children : (Object.dict (refs ++ [(key, r)])).children = (Object.dict refs).children ++ [key, r] := by
          simp [Object.children]
        obtain ⟨filling₂, kept, kept'⟩ := filling.adopt both children rfl
        dsimp only at holds named keyed apart₂ ⊢
        have other {q : Ref} {t : CodePoints} (text : g₂.Has q (.str t)) : c ≠ q := by
          rintro rfl
          cases text.unique (both.grown.has filling.has)
        have apart₃ : (g₂.setObject c (.dict (refs ++ [(key, r)]))).KeysApart (refs ++ [(key, r)]) entries := by
          intro entry member
          rcases List.mem_append.1 member with early | last
          · obtain ⟨k', text, away⟩ := apart₂ entry early
            exact ⟨k', has_setObject_of_ne (other text) text, fun late => away (List.mem_cons_of_mem _ late)⟩
          · rw [List.mem_singleton.1 last]
            exact ⟨k, has_setObject_of_ne (other named) named, fresh⟩
        refine (ih tail distincts keys apart₃ filling₂).cons inCalendar_append possible kept ?_
        rintro g' o rest kept'' ⟨refs', rfl, others, rfl⟩
        obtain ⟨key', kept'⟩ := keeps_cons.1 (kept'.trans kept'')
        obtain ⟨holds', same⟩ := Holds.keeps v r holds ((keyed.grown.keeps _).trans kept')
        refine ⟨(key, r) :: refs', by rw [List.append_assoc, List.singleton_append],
          ⟨key, r, refs', rfl, key' _ named, holds', others⟩, ?_⟩
        rw [nodesEntries_cons, same]
      · rw [failed]
        exact ⟨.inr ⟨short, rfl⟩, .dict refs, done, filling.of_undone undone⟩

/-- A container is made and filled, or nothing is made. -/
theorem filled_result {possible : Prop} {holds : Heap → Ref → Prop}
    {nodes : Heap → Ref → List Ref} {made : Except Raised Unit × Heap} {parts : Heap → Object → List Ref → Prop}
    (fills : h.Fills g c possible memory [] parts made)
    (whole : ∀ g' o more, g'.Has c o → parts g' o more → holds g' c ∧ nodes g' c = c :: more) :
    h.Result possible memory holds nodes (filled c made) := by
  rcases made with ⟨e | _, g'⟩
  · obtain ⟨hindrance, o, done, filling⟩ := fills
    exact ⟨hindrance, filling.gained.undone⟩
  · obtain ⟨possible, -, o, more, filling, holds⟩ := fills
    obtain ⟨holds', same⟩ := whole g' o more filling.has holds
    refine ⟨possible, holds', ?_⟩
    rw [same]
    exact filling.gained

/-- What comes of making a container and filling it. -/
theorem tryNew_filled {o : Object} {possible : Prop} {holds : Heap → Ref → Prop} {nodes : Heap → Ref → List Ref}
    (fill : Heap → Ref → Except Raised Unit × Heap) (singles : h.HasSingletons) (many : singleton? o = none)
    (empty : o.children = [])
    (filled' : ∀ g c, h.Filling g c o [] → h.Result possible memory holds nodes (filled c (fill g c))) :
    h.Result possible memory holds nodes
      (match h.tryNew o memory with
      | (.error e, h) => (.error e, h)
      | (.ok c, h) => filled c (fill h c)) := by
  obtain made | ⟨short, failed⟩ := tryNew_cases h o memory
  · rw [made]
    exact filled' _ _ (.start singles many empty)
  · rw [failed]
    exact ⟨.inr ⟨short, rfl⟩, .refl h⟩

/-- The objects of values are made, and a list or a tuple of them, or nothing is. -/
theorem tryNewPlaces_filled (kind : SequenceKind) {items : List Value} (parts : ∀ v ∈ items, Yields v)
    (distinct : ∀ v ∈ items, v.Distinct) (singles : h.HasSingletons) {holds : Heap → Ref → Prop}
    {nodes : Heap → Ref → List Ref}
    (whole : ∀ g' c refs, g'.Has c (kind.of refs) → g'.HoldsAll items refs →
      holds g' c ∧ nodes g' c = c :: g'.nodesAll items refs) :
    h.Result (InCalendar (Value.timestampsAll items)) memory holds nodes
      (match h.tryNewPlaces kind items.length memory with
      | (.error e, h) => (.error e, h)
      | (.ok c, h) => filled c (fill h memory kind c 0 items)) := by
  have empty : (Object.ofPlaces kind (placesOf [] items.length)).children = [] := by
    rw [Object.children_ofPlaces, filterMap_placesOf]
  refine tryNew_filled (fun h c => fill h memory kind c 0 items) singles (singleton?_ofPlaces _ _) empty
    fun g c filling => filled_result (fill_fills kind parts distinct [] filling) ?_
  rintro g' o more has ⟨refs, rfl, all, rfl⟩
  exact whole g' c refs has all

/-- The objects of a value are made, or nothing is. -/
theorem place_yields (v : Value) : Yields v := by
  induction v using Value.induction with
  | null => exact yields_leaf .none rfl inCalendar_nil (fun _ _ => rfl) (fun _ _ => rfl) fun _ _ => id
  | bool b => exact yields_leaf (.bool b) rfl inCalendar_nil (fun _ _ => rfl) (fun _ _ => rfl) fun _ _ => id
  | int i => exact yields_leaf (.int i.toInt) rfl inCalendar_nil (fun _ _ => rfl) (fun _ _ => rfl) fun _ _ => id
  | float f => exact yields_leaf (.float f) rfl inCalendar_nil (fun _ _ => rfl) (fun _ _ => rfl) fun _ _ => id
  | string s =>
    exact yields_leaf (.str (.ofString s)) rfl inCalendar_nil (fun _ _ => rfl) (fun _ _ => rfl) fun _ _ => id
  | blob bytes =>
    exact yields_leaf (.byteArray bytes) rfl inCalendar_nil (fun _ _ => rfl) (fun _ _ => rfl) fun _ _ => id
  | timestamp t =>
    by_cases year : DateTime.hasYear t.date.year
    · have possible : (Value.timestamp t).InCalendar := by
        intro t' member
        rwa [List.mem_singleton.1 member]
      refine yields_leaf (.datetime (.ofTimestamp t)) rfl possible (fun h memory => ?_) (fun _ _ => rfl) fun _ _ => id
      rw [place, if_pos year]
    · intro h memory singles _
      rw [place, if_neg year]
      exact ⟨.inl ⟨fun possible => year (possible t (List.mem_singleton.2 rfl)), _, rfl⟩, .refl h⟩
  | array items parts =>
    intro h memory singles distinct
    rw [place]
    refine tryNewPlaces_filled .list parts (Value.distinctItems_iff.1 distinct) singles fun g' c refs has all => ?_
    exact ⟨⟨refs, has, all⟩, by rw [nodes, has.object]; rfl⟩
  | map entries parts =>
    intro h memory singles distinct
    rw [place]
    refine tryNew_filled (fun h c => fillEntries h memory c entries) singles rfl rfl fun g c filling => ?_
    have apart : g.KeysApart [] entries := List.forall_mem_nil _
    refine filled_result
      (fillEntries_fills parts (Value.distinctEntries_iff.1 distinct.2) distinct.1 apart filling) ?_
    rintro g' o more has ⟨refs, rfl, all, rfl⟩
    exact ⟨⟨refs, has, all⟩, by rw [nodes, has.object]; rfl⟩

/-- The objects of values are made, and a tuple of them, or nothing is. -/
theorem placeArguments_result {args : List Value} (distinct : ∀ v ∈ args, v.Distinct) (memory : Memory)
    (singles : h.HasSingletons) :
    h.Result (InCalendar (Value.timestampsAll args)) memory
      (fun h r => ∃ refs, h.Has r (.tuple refs) ∧ h.HoldsAll args refs)
      (fun h r => r :: h.nodesAll args (h.object r).children) (h.placeArguments memory args) := by
  refine tryNewPlaces_filled .tuple (fun v _ => place_yields v) distinct singles fun g' c refs has all => ?_
  exact ⟨⟨refs, has, all⟩, by rw [has.object]; rfl⟩

end

end Heap

end InterpreterHost
