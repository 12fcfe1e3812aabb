import InterpreterHost.Value

/-!
# Instants in values

The interpreter knows instants to the microsecond.  A value that went through it is cut to whole
microseconds wherever an instant stands in it, and is otherwise the same.

## Main definitions

* `Value.induction` — induction on values, with the parts of containers
* `Value.timestamps` — the instants in a value
* `Value.truncate` — the value with its instants cut to whole microseconds

## Main statements

* `Value.truncate_truncate` — cutting twice is cutting once
-/

namespace InterpreterHost.Value

/-- What holds of a container if it holds of all its parts holds of every value. -/
@[elab_as_elim]
theorem induction {motive : Value → Prop} (null : motive .null) (bool : ∀ b, motive (.bool b))
    (int : ∀ i, motive (.int i)) (float : ∀ f, motive (.float f)) (string : ∀ s, motive (.string s))
    (blob : ∀ bytes, motive (.blob bytes)) (timestamp : ∀ t, motive (.timestamp t))
    (array : ∀ items, (∀ v ∈ items, motive v) → motive (.array items))
    (map : ∀ entries, (∀ e ∈ entries, motive e.2) → motive (.map entries)) (v : Value) : motive v := by
  refine @Value.rec motive (fun items => ∀ v ∈ items, motive v)
    (fun entries => ∀ e ∈ entries, motive e.2) (fun e => motive e.2)
    null bool int float string blob timestamp array map (List.forall_mem_nil _) ?_
    (List.forall_mem_nil _) ?_ (fun _ _ h => h) v
  · exact fun _ _ head tail => List.forall_mem_cons.2 ⟨head, tail⟩
  · exact fun _ _ head tail => List.forall_mem_cons.2 ⟨head, tail⟩

mutual

/-- The instants in a value. -/
def timestamps : Value → List Timestamp
  | timestamp t => [t]
  | array items => timestampsAll items
  | map entries => timestampsEntries entries
  | _ => []

def timestampsAll : List Value → List Timestamp
  | [] => []
  | v :: items => timestamps v ++ timestampsAll items

def timestampsEntries : List (String × Value) → List Timestamp
  | [] => []
  | (_, v) :: entries => timestamps v ++ timestampsEntries entries

end

mutual

/-- The value with its instants cut to whole microseconds. -/
def truncate : Value → Value
  | timestamp t => timestamp t.truncate
  | array items => array (truncateAll items)
  | map entries => map (truncateEntries entries)
  | v => v

def truncateAll : List Value → List Value
  | [] => []
  | v :: items => truncate v :: truncateAll items

def truncateEntries : List (String × Value) → List (String × Value)
  | [] => []
  | (k, v) :: entries => (k, truncate v) :: truncateEntries entries

end

theorem truncateAll_truncateAll {items : List Value}
    (parts : ∀ v ∈ items, v.truncate.truncate = v.truncate) :
    truncateAll (truncateAll items) = truncateAll items := by
  induction items with
  | nil => rfl
  | cons v items ih =>
    obtain ⟨head, tail⟩ := List.forall_mem_cons.1 parts
    rw [truncateAll, truncateAll, head, ih tail]

theorem truncateEntries_truncateEntries {entries : List (String × Value)}
    (parts : ∀ e ∈ entries, e.2.truncate.truncate = e.2.truncate) :
    truncateEntries (truncateEntries entries) = truncateEntries entries := by
  induction entries with
  | nil => rfl
  | cons e entries ih =>
    obtain ⟨head, tail⟩ := List.forall_mem_cons.1 parts
    rw [truncateEntries, truncateEntries, head, ih tail]

/-- Cutting twice is cutting once. -/
theorem truncate_truncate (v : Value) : v.truncate.truncate = v.truncate := by
  induction v using Value.induction with
  | timestamp t => rw [truncate, truncate, Timestamp.truncate_truncate]
  | array items parts => rw [truncate, truncate, truncateAll_truncateAll parts]
  | map entries parts => rw [truncate, truncate, truncateEntries_truncateEntries parts]
  | _ => rfl

end InterpreterHost.Value
