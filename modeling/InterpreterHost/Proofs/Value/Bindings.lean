import InterpreterHost.Proofs.Value.Truncation
import Mathlib.Data.List.Induction
import Mathlib.Data.List.Nodup
import Mathlib.Data.List.Perm.Subperm

/-!
# What a map binds

A map is known by what it binds its keys to.  A table gives its entries in an order of its own, and pairs that are
collected may bind a key more than once; the one is a list of entries in which no key stands twice, in any order,
and of the other only the last pair of each key counts.  Sorting the first and collecting the second both give the
entries in the order of the keys, and two such lists are equal as soon as they bind the same keys to the same values.

## Main definitions

* `Entries.Distinct` — no key stands twice
* `Entries.last?` — what the last pair with a key binds it to
* `Value.Distinct` — no key stands twice in any map of a value

## Main statements

* `Entries.Ascending.ext` — entries in order are known by what they bind
* `Entries.find?_ofList` — collecting binds each key to its last value
* `Entries.Distinct.sorted_eq_ofList` — sorting distinct entries is collecting them
* `Entries.mem_keys_of_length_eq` — as many distinct keys among others are all of them
-/

namespace InterpreterHost

/-! ## Related options -/

/-- Related options are both empty or have related contents. -/
theorem rel_cases {α β : Type} {r : α → β → Prop} {o : Option α} {o' : Option β} (h : Option.Rel r o o') :
    o = none ∧ o' = none ∨ ∃ a b, o = some a ∧ o' = some b ∧ r a b := by
  cases h with
  | some related => exact .inr ⟨_, _, rfl, rfl, related⟩
  | none => exact .inl ⟨rfl, rfl⟩

/-- Options are related by what their contents are mapped to if both are mapped to the same. -/
theorem rel_iff_map_eq {α β : Type} {r : α → α → Prop} {f : α → β} {o o' : Option α}
    (each : ∀ a, o = some a → ∀ b, r a b ↔ f a = f b) : Option.Rel r o o' ↔ o.map f = o'.map f := by
  cases o with
  | none =>
    cases o' with
    | none => exact iff_of_true .none rfl
    | some b => exact iff_of_false nofun nofun
  | some a =>
    cases o' with
    | none => exact iff_of_false nofun nofun
    | some b => rw [Option.rel_some_some, each a rfl, Option.map_some, Option.map_some, Option.some_inj]

namespace Entries

variable {α : Type u} {β : Type v} {m n pairs : Entries α} {k : String} {a : α}

/-- No key stands twice. -/
def Distinct (m : Entries α) : Prop := m.keys.Nodup

instance (m : Entries α) : Decidable m.Distinct := inferInstanceAs (Decidable (List.Nodup _))

theorem Ascending.distinct (ascending : m.Ascending) : m.Distinct := by
  refine List.Pairwise.imp (fun {j k} (before : j < k) same => ?_) ascending
  exact String.lt_irrefl k (same ▸ before)

/-! ## Looking a key up -/

theorem find?_cons (e : String × α) (m : Entries α) (k : String) :
    find? (e :: m) k = if k = e.1 then some e.2 else m.find? k := by
  rw [find?, List.lookup_cons]
  split
  · next same => rw [if_pos (eq_of_beq same)]
  · next other => rw [if_neg fun same => by simp [same] at other, find?]

theorem mem_of_find? (found : m.find? k = some a) : (k, a) ∈ m := by
  obtain ⟨before, after, rfl, -⟩ := List.lookup_eq_some_iff.1 found
  exact List.mem_append_right before List.mem_cons_self

theorem find?_eq_none_iff : m.find? k = none ↔ k ∉ m.keys := by rw [mem_keys_iff, ne_eq, not_not]

theorem Distinct.find?_eq_some_iff (distinct : m.Distinct) : m.find? k = some a ↔ (k, a) ∈ m := by
  refine ⟨mem_of_find?, fun mem => ?_⟩
  induction m with
  | nil => cases mem
  | cons e m ih =>
    obtain ⟨fresh, distinct⟩ : e.1 ∉ keys m ∧ Distinct m := List.nodup_cons.1 distinct
    rw [find?_cons]
    rcases List.mem_cons.1 mem with rfl | mem
    · exact if_pos rfl
    · have bound : k ∈ keys m := List.mem_map.2 ⟨(k, a), mem, rfl⟩
      have other : k ≠ e.1 := fun same => fresh (same ▸ bound)
      rw [if_neg other, ih distinct mem]

theorem Distinct.nodup (distinct : m.Distinct) : List.Nodup m := List.Nodup.of_map _ distinct

/-- Entries in order are known by what they bind. -/
theorem Ascending.ext (ascending : m.Ascending) (ascending' : n.Ascending)
    (same : ∀ k, m.find? k = n.find? k) : m = n := by
  have perm : m.Perm n := by
    refine (List.perm_ext_iff_of_nodup ascending.distinct.nodup ascending'.distinct.nodup).2 fun e => ?_
    rw [← ascending.distinct.find?_eq_some_iff, ← ascending'.distinct.find?_eq_some_iff, same]
  refine perm.eq_of_pairwise (fun e e' _ _ before after => ?_) (List.pairwise_map.1 ascending)
    (List.pairwise_map.1 ascending')
  exact absurd (String.lt_trans before after) (String.lt_irrefl _)

/-! ## Counting keys -/

/-- Where all keys of a map are among as many others, these are no others. -/
theorem mem_keys_of_length_eq (distinct : m.Distinct) (length : m.length = n.length)
    (subset : ∀ k ∈ m.keys, k ∈ n.keys) (mem : k ∈ n.keys) : k ∈ m.keys := by
  have enough : n.keys.length ≤ m.keys.length := by
    rw [keys, keys, List.length_map, List.length_map]
    exact Nat.le_of_eq length.symm
  have perm : m.keys.Perm n.keys := (List.subperm_of_subset distinct subset).perm_of_length_le enough
  exact perm.mem_iff.2 mem

/-- Maps with the same keys have as many entries. -/
theorem Distinct.length_eq (distinct : m.Distinct) (distinct' : n.Distinct)
    (same : ∀ k, k ∈ m.keys ↔ k ∈ n.keys) : m.length = n.length := by
  have perm : m.keys.Perm n.keys := (List.perm_ext_iff_of_nodup distinct distinct').2 same
  simpa [keys] using perm.length_eq

/-! ## Mapped values -/

@[simp] theorem keys_mapValues (f : α → β) (m : Entries α) : (m.mapValues f).keys = m.keys := by
  simp [keys, mapValues]

theorem find?_mapValues (f : α → β) (m : Entries α) (k : String) :
    (m.mapValues f).find? k = (m.find? k).map f := by
  induction m with
  | nil => rfl
  | cons e m ih =>
    have first : mapValues f (e :: m) = (e.1, f e.2) :: mapValues f m := rfl
    rw [first, find?_cons, find?_cons, ih]
    split <;> rfl

theorem Distinct.mapValues (distinct : m.Distinct) (f : α → β) : (m.mapValues f).Distinct := by
  rwa [Distinct, keys_mapValues]

/-! ## Collecting -/

/-- What the last pair with a key binds it to. -/
def last? (pairs : List (String × α)) (k : String) : Option α := find? pairs.reverse k

theorem last?_concat (pairs : List (String × α)) (e : String × α) (k : String) :
    last? (pairs ++ [e]) k = if k = e.1 then some e.2 else last? pairs k := by
  rw [last?, List.reverse_concat, find?_cons, last?]

theorem mem_of_last? (found : last? pairs k = some a) : (k, a) ∈ pairs := List.mem_reverse.1 (mem_of_find? found)

/-- It is found by the pairs behind it, none of which has the key. -/
theorem last?_eq_some_iff :
    last? pairs k = some a ↔ ∃ before after, pairs = before ++ (k, a) :: after ∧ k ∉ keys after := by
  rw [last?, find?, List.lookup_eq_some_iff]
  constructor
  · rintro ⟨after, before, reversed, fresh⟩
    refine ⟨before.reverse, after.reverse, ?_, fun mem => ?_⟩
    · rw [← List.reverse_reverse pairs, reversed]
      simp
    · obtain ⟨e, member, rfl⟩ := List.mem_map.1 mem
      exact absurd (fresh e (List.mem_reverse.1 member)) (by simp)
  · rintro ⟨before, after, rfl, fresh⟩
    refine ⟨after.reverse, before.reverse, by simp, fun e member => ?_⟩
    have bound : e.1 ∈ keys after := List.mem_map.2 ⟨e, List.mem_reverse.1 member, rfl⟩
    exact bne_iff_ne.2 fun same => fresh (same ▸ bound)

theorem last?_eq_none_iff : last? pairs k = none ↔ k ∉ pairs.keys := by
  rw [last?, find?_eq_none_iff, keys, List.map_reverse, List.mem_reverse, keys]

theorem Distinct.last?_eq_find? (distinct : pairs.Distinct) (k : String) : last? pairs k = pairs.find? k := by
  have reversed : Distinct (List.reverse pairs) := by
    rw [Distinct, keys, List.map_reverse]
    exact List.nodup_reverse.2 distinct
  refine Option.ext fun a => ?_
  rw [last?, reversed.find?_eq_some_iff, distinct.find?_eq_some_iff, List.mem_reverse]

theorem last?_mapValues (f : α → β) (pairs : List (String × α)) (k : String) :
    last? (mapValues f pairs) k = (last? pairs k).map f := by
  have reversed : (mapValues f pairs).reverse = mapValues f pairs.reverse := List.map_reverse.symm
  rw [last?, reversed, find?_mapValues, last?]

theorem ofList_concat (pairs : List (String × α)) (e : String × α) :
    ofList (pairs ++ [e]) = (ofList pairs).insert e.1 e.2 := by
  rw [ofList, List.foldl_append]
  rfl

/-- Collecting binds each key to its last value. -/
theorem find?_ofList (pairs : List (String × α)) (k : String) : (ofList pairs).find? k = last? pairs k := by
  induction pairs using List.reverseRecOn with
  | nil => rfl
  | append_singleton pairs e ih => rw [ofList_concat, find?_insert, ih, last?_concat]

theorem mem_keys_ofList : k ∈ (ofList pairs).keys ↔ k ∈ pairs.keys := by
  rw [mem_keys_iff, find?_ofList, ne_eq, last?_eq_none_iff, not_not]

theorem ofList_mapValues (f : α → β) (pairs : List (String × α)) :
    ofList (mapValues f pairs) = (ofList pairs).mapValues f := by
  refine (ascending_ofList _).ext ((ascending_ofList pairs).mapValues f) fun k => ?_
  rw [find?_ofList, last?_mapValues, find?_mapValues, find?_ofList]

/-! ## Sorting -/

theorem sorted_perm (m : Entries α) : m.sorted.Perm m := List.mergeSort_perm m _

theorem Distinct.perm (distinct : m.Distinct) (perm : m.Perm n) : n.Distinct := (perm.map _).nodup distinct

theorem Distinct.find?_perm (distinct : m.Distinct) (perm : m.Perm n) (k : String) : m.find? k = n.find? k := by
  refine Option.ext fun a => ?_
  rw [distinct.find?_eq_some_iff, (distinct.perm perm).find?_eq_some_iff, perm.mem_iff]

theorem Distinct.ascending_sorted (distinct : m.Distinct) : m.sorted.Ascending := by
  have transitive (e e' e'' : String × α) (before : decide (e.1 ≤ e'.1) = true)
      (after : decide (e'.1 ≤ e''.1) = true) : decide (e.1 ≤ e''.1) = true :=
    decide_eq_true (String.le_trans (of_decide_eq_true before) (of_decide_eq_true after))
  have total (e e' : String × α) : (decide (e.1 ≤ e'.1) || decide (e'.1 ≤ e.1)) = true := by
    simpa using String.le_total e.1 e'.1
  have weakly : m.sorted.Pairwise fun e e' => e.1 ≤ e'.1 :=
    (List.pairwise_mergeSort transitive total m).imp of_decide_eq_true
  have apart : m.sorted.Pairwise fun e e' => e.1 ≠ e'.1 :=
    List.pairwise_map.1 (distinct.perm (sorted_perm m).symm)
  refine List.pairwise_map.2 ((weakly.and apart).imp fun both => ?_)
  exact Std.lt_of_le_of_ne both.1 both.2

/-- Entries in any order are collected into those in order. -/
theorem ofList_of_perm (ascending : m.Ascending) (perm : n.Perm m) : ofList n = m := by
  have distinct : n.Distinct := ascending.distinct.perm perm.symm
  refine (ascending_ofList n).ext ascending fun k => ?_
  rw [find?_ofList, distinct.last?_eq_find?, distinct.find?_perm perm]

/-- Sorting entries of which no key stands twice is collecting them. -/
theorem Distinct.sorted_eq_ofList (distinct : m.Distinct) : m.sorted = ofList m :=
  (ofList_of_perm distinct.ascending_sorted (sorted_perm m).symm).symm

end Entries

/-! ## Maps within values -/

namespace Value

mutual

/-- No key stands twice in any map of the value; its entries may come in any order. -/
def Distinct : Value → Prop
  | array items => DistinctItems items
  | map entries => Entries.Distinct entries ∧ DistinctEntries entries
  | _ => True

def DistinctItems : List Value → Prop
  | [] => True
  | v :: items => Distinct v ∧ DistinctItems items

def DistinctEntries : List (String × Value) → Prop
  | [] => True
  | (_, v) :: entries => Distinct v ∧ DistinctEntries entries

end

theorem distinctItems_iff {items : List Value} : DistinctItems items ↔ ∀ v ∈ items, v.Distinct := by
  induction items with
  | nil => simp [DistinctItems]
  | cons v items ih => rw [DistinctItems, ih, List.forall_mem_cons]

theorem distinctEntries_iff {entries : ValueMap} : DistinctEntries entries ↔ ∀ e ∈ entries, e.2.Distinct := by
  induction entries with
  | nil => simp [DistinctEntries]
  | cons e entries ih => rw [DistinctEntries, ih, List.forall_mem_cons]

theorem orderedItems_iff {items : List Value} : OrderedItems items ↔ ∀ v ∈ items, v.Ordered := by
  induction items with
  | nil => simp [OrderedItems]
  | cons v items ih => rw [OrderedItems, ih, List.forall_mem_cons]

theorem orderedEntries_iff {entries : ValueMap} :
    OrderedEntries entries ↔ ∀ e ∈ entries, e.2.Ordered := by
  induction entries with
  | nil => simp [OrderedEntries]
  | cons e entries ih => rw [OrderedEntries, ih, List.forall_mem_cons]

theorem Ordered.distinct {v : Value} : v.Ordered → v.Distinct := by
  induction v using Value.induction with
  | array items parts =>
    intro ordered
    exact distinctItems_iff.2 fun v member => parts v member (orderedItems_iff.1 ordered v member)
  | map entries parts =>
    rintro ⟨ascending, ordered⟩
    refine ⟨ascending.distinct, distinctEntries_iff.2 fun e member => ?_⟩
    exact parts e member (orderedEntries_iff.1 ordered e member)
  | _ => exact fun _ => trivial

end Value

end InterpreterHost
