/-!
# Entries in the order of their keys

A finite map from texts, kept as the list of its entries in ascending order of the keys.  The order of texts is
that of their code points, which is also the order of their octets, so a map has one list and one text.

## Main definitions

* `Entries` — the entries of a map
* `Entries.Ascending` — the keys ascend strictly; every operation keeps this
* `Entries.find?`, `Entries.insert`, `Entries.erase`, `Entries.ofList` — the operations
* `Entries.sorted` — the entries of a table that gives them in any order
-/

namespace InterpreterHost

/-- The entries of a finite map from texts. -/
abbrev Entries (α : Type u) := List (String × α)

namespace Entries

variable {α : Type u} {β : Type v}

def keys (m : Entries α) : List String := m.map (·.1)

/-- The keys ascend strictly. -/
def Ascending (m : Entries α) : Prop := m.keys.Pairwise (· < ·)

instance (m : Entries α) : Decidable m.Ascending :=
  inferInstanceAs (Decidable (List.Pairwise _ _))

/-- What a key is bound to. -/
def find? (m : Entries α) (key : String) : Option α := m.lookup key

def contains (m : Entries α) (key : String) : Bool := (m.find? key).isSome

/-- Bind a key, in place of what it was bound to. -/
def insert (key : String) (value : α) : Entries α → Entries α
  | [] => [(key, value)]
  | (k, v) :: m =>
    if key < k then (key, value) :: (k, v) :: m
    else if key = k then (key, value) :: m
    else (k, v) :: insert key value m

/-- Unbind a key. -/
def erase (key : String) (m : Entries α) : Entries α := m.filter (·.1 ≠ key)

/-- Bind pairs from left to right, so that the last binding of a key stays. -/
def ofList (pairs : List (String × α)) : Entries α :=
  pairs.foldl (fun m p => m.insert p.1 p.2) []

/-- Entries that come in any order, in the order of their keys. -/
def sorted (m : Entries α) : Entries α := m.mergeSort fun e e' => e.1 ≤ e'.1

/-- Map the values. -/
def mapValues (f : α → β) (m : Entries α) : Entries β := m.map fun p => (p.1, f p.2)

/-! ## The order is kept -/

@[simp] theorem keys_nil : keys ([] : Entries α) = [] := rfl

@[simp] theorem keys_cons (p : String × α) (m : Entries α) : keys (p :: m) = p.1 :: keys m := rfl

theorem ascending_nil : Ascending ([] : Entries α) := List.Pairwise.nil

theorem mem_keys_insert {key k : String} {value : α} {m : Entries α} :
    k ∈ (m.insert key value).keys ↔ k = key ∨ k ∈ m.keys := by
  induction m with
  | nil => simp [insert]
  | cons p m ih =>
    simp only [insert]
    split
    · simp
    · split <;> grind [keys_cons]

theorem Ascending.insert {m : Entries α} (h : m.Ascending) (key : String) (value : α) :
    (m.insert key value).Ascending := by
  induction m with
  | nil => simp [Entries.insert, Ascending]
  | cons p m ih =>
    have tail : Ascending m := (List.pairwise_cons.1 h).2
    have head : ∀ k ∈ keys m, p.1 < k := (List.pairwise_cons.1 h).1
    simp only [Entries.insert]
    split
    · next lt =>
      refine List.pairwise_cons.2 ⟨?_, h⟩
      intro k mem
      rcases List.mem_cons.1 mem with rfl | mem
      · exact lt
      · exact String.lt_trans lt (head k mem)
    · split
      · next eq => subst eq; exact h
      · next notLt ne =>
        refine List.pairwise_cons.2 ⟨?_, ih tail⟩
        intro k mem
        rcases mem_keys_insert.1 mem with rfl | mem
        · exact Decidable.byContradiction fun notLt' =>
            ne (String.le_antisymm (String.not_lt.1 notLt') (String.not_lt.1 notLt))
        · exact head k mem

theorem Ascending.erase {m : Entries α} (h : m.Ascending) (key : String) : (m.erase key).Ascending :=
  List.Pairwise.sublist (List.Sublist.map _ List.filter_sublist) h

theorem ascending_ofList (pairs : List (String × α)) : (ofList pairs).Ascending := by
  suffices ∀ m : Entries α, m.Ascending →
      Ascending (pairs.foldl (fun m p => m.insert p.1 p.2) m) from this [] ascending_nil
  induction pairs with
  | nil => exact fun _ h => h
  | cons p pairs ih => exact fun m h => ih _ (h.insert p.1 p.2)

/-! ## Where a key is put -/

/-- A key after all others is bound at the end. -/
theorem insert_of_ascending {m rest : Entries α} {key : String} {a : α}
    (ascending : Ascending (m ++ (key, a) :: rest)) : m.insert key a = m ++ [(key, a)] := by
  induction m with
  | nil => rfl
  | cons e m ih =>
    obtain ⟨k, b⟩ := e
    have split := List.pairwise_cons.1 ascending
    have before : k < key := split.1 key (by simp)
    have later : ¬ key < k := String.lt_asymm before
    have other : key ≠ k := fun same => String.lt_irrefl k (same ▸ before)
    rw [insert, if_neg later, if_neg other, ih split.2]
    rfl

theorem mem_insert {m : Entries α} {key : String} {a : α} {e : String × α} (member : e ∈ m.insert key a) :
    e = (key, a) ∨ e ∈ m := by
  induction m with
  | nil => exact .inl (List.mem_singleton.1 member)
  | cons p m ih =>
    rw [insert] at member
    grind

/-- A new key is put in its place, and nothing else is changed. -/
theorem insert_perm {m : Entries α} {key : String} (fresh : key ∉ m.keys) (a : α) :
    (m.insert key a).Perm ((key, a) :: m) := by
  induction m with
  | nil => exact .refl _
  | cons e m ih =>
    obtain ⟨k, b⟩ := e
    rw [keys_cons, List.mem_cons, not_or] at fresh
    rw [insert, if_neg fresh.1]
    split
    · exact .refl _
    · exact ((ih fresh.2).cons (k, b)).trans (.swap _ _ m)

theorem mem_ofList {pairs : List (String × α)} {e : String × α} (member : e ∈ ofList pairs) :
    e ∈ pairs := by
  suffices ∀ m : Entries α, e ∈ pairs.foldl (fun m p => m.insert p.1 p.2) m → e ∈ m ∨ e ∈ pairs by
    simpa using this [] member
  clear member
  intro m
  induction pairs generalizing m with
  | nil => exact .inl
  | cons p pairs ih =>
    intro member
    rcases ih (m.insert p.1 p.2) member with old | new
    · rcases mem_insert old with rfl | old
      · exact .inr List.mem_cons_self
      · exact .inl old
    · exact .inr (List.mem_cons_of_mem p new)

/-- Pairs in ascending order are a list of entries already. -/
theorem ofList_of_ascending {m : Entries α} (ascending : m.Ascending) : ofList m = m := by
  suffices ∀ acc rest : Entries α, Ascending (acc ++ rest) →
      rest.foldl (fun m p => m.insert p.1 p.2) acc = acc ++ rest from this [] m ascending
  intro acc rest ascending
  induction rest generalizing acc with
  | nil => exact (List.append_nil acc).symm
  | cons e rest ih =>
    obtain ⟨key, a⟩ := e
    have joined : (acc ++ [(key, a)]) ++ rest = acc ++ (key, a) :: rest := by
      rw [List.append_assoc, List.singleton_append]
    rw [List.foldl_cons, insert_of_ascending ascending, ih _ (joined ▸ ascending), joined]

/-! ## Mapped values -/

section

variable {β : Type v} {γ : Type w} {m : Entries α}

theorem Ascending.mapValues (ascending : m.Ascending) (f : α → β) : (m.mapValues f).Ascending := by
  have same : (m.mapValues f).keys = m.keys := by simp [keys, Entries.mapValues]
  rwa [Ascending, same]

theorem mapValues_mapValues (f : α → β) (g : β → γ) :
    (m.mapValues f).mapValues g = m.mapValues (g ∘ f) :=
  List.map_map

theorem mapValues_congr {f g : α → β} (h : ∀ e ∈ m, f e.2 = g e.2) : m.mapValues f = m.mapValues g :=
  List.map_congr_left fun e member => Prod.ext rfl (h e member)

theorem mapValues_id (m : Entries α) : m.mapValues id = m := List.map_id m

end

/-! ## What a key is bound to -/

theorem find?_insert {m : Entries α} (key k : String) (value : α) :
    (m.insert key value).find? k = if k = key then some value else m.find? k := by
  induction m with
  | nil => simp [insert, find?, List.lookup_cons]; split <;> simp_all
  | cons p m ih =>
    simp only [insert, find?] at ih ⊢
    split
    · grind
    · split <;> grind

/-- The keys of a map are those that are bound. -/
theorem mem_keys_iff {m : Entries α} {key : String} : key ∈ m.keys ↔ m.find? key ≠ none := by
  induction m with
  | nil => simp [find?]
  | cons p m ih =>
    simp only [keys_cons, List.mem_cons, ih, find?]
    grind

end Entries

end InterpreterHost
