import InterpreterHost.Proofs.Heap.Finalization
import InterpreterHost.Proofs.Owner.Outcome

/-!
# Code that accounts for references

Code of the interpreter accounts for references if it leaves the counts right: what was owed before is owed
afterwards, and its result if it has one.  To call an object is to run a function of the library in the end, so
calls account for references if these functions do, and then finalizers do, which are called like anything else.

## Main definitions

* `Computation.Accounts` — the code leaves the counts right, whether it has a result or raises an exception
* `Library.RoutinesAccount` — the functions of a library do

## Main statements

* `Library.accounts_call` — then calls of all objects do
* `Library.finalizersAccount` — and finalizers
-/

namespace InterpreterHost

/-- What was held is owed when the counts are right and there is an object. -/
theorem Heap.Owes.held {h : Heap} {refs : List Ref} {r : Ref} (owes : h.Owes refs) (some : h.object r ≠ .none) :
    0 < h.count r := by
  obtain ⟨outside, -, gone⟩ := owes
  exact Nat.pos_of_ne_zero fun none => some (gone r none)

namespace Computation

/-- The code leaves what is owed, and owes its result.  An exception costs no reference. -/
def Accounts (code : Computation Ref) (i : Interpreter) : Prop :=
  ∀ refs, i.heap.Owes refs → match code.run i with
    | (.ok r, i') => i'.heap.Owes (r :: refs)
    | (.error _, i') => i'.heap.Owes refs

/-- Code that looks at the interpreter first accounts for references if it then does. -/
theorem accounts_look_bind {r : Ref} {next : Object → Computation Ref} {i : Interpreter}
    (accounts : (next (i.heap.object r)).Accounts i) : (look r >>= next).Accounts i := accounts

end Computation

namespace Library

open Computation

/-- The functions of the library account for references, as long as there are the arguments that they get. -/
def RoutinesAccount (library : Library) : Prop :=
  ∀ name args named (i : Interpreter), (∀ a ∈ args, 0 < i.heap.count a) → (∀ a ∈ named, 0 < i.heap.count a.2) →
    (library.invoke name args named).Accounts i

section

variable {library : Library} (account : library.RoutinesAccount) {args : List Ref} {named : List (String × Ref)}
  {i : Interpreter}
include account

theorem accounts_invokeAt (f : Ref) (held : ∀ a ∈ args, 0 < i.heap.count a)
    (held' : ∀ a ∈ named, 0 < i.heap.count a.2) : (library.invokeAt f args named).Accounts i := by
  unfold invokeAt
  refine accounts_look_bind ?_
  cases object : i.heap.object f with
  | function name => exact account name args named i held held'
  | method g self =>
    refine accounts_look_bind ?_
    intro refs owes
    have has : i.heap.Has f (.method g self) := object ▸ Heap.has_of_count_pos (owes.held (by simp [object]))
    have bound : 0 < i.heap.count self := owes.count_pos_of_child has (by simp [Object.children])
    cases i.heap.object g with
    | function name => exact account name (self :: args) named i (List.forall_mem_cons.2 ⟨bound, held⟩) held' refs owes
    | _ => exact owes
  | _ => exact fun _ owes => owes

/-- The instance that is made is owed once its initializer has run, and gone if that refuses. -/
theorem accounts_instantiate {c : Ref} (there : i.heap.object c ≠ .none) (held : ∀ a ∈ args, 0 < i.heap.count a)
    (held' : ∀ a ∈ named, 0 < i.heap.count a.2) : (library.instantiate c args named).Accounts i := by
  intro refs owes
  have has := Heap.has_of_count_pos (owes.held there)
  have made := (owes.retain has).alloc (o := .instanceOf c [])
  have kept := (Heap.extends_retain i.heap c).trans (Heap.extends_alloc (i.heap.retain c) (.instanceOf c []))
  have retained : (retain c).run i = (.ok c, { i with heap := i.heap.retain c }) := rfl
  have allocated : (new (.instanceOf c [])).run { i with heap := i.heap.retain c } =
      (.ok ((i.heap.retain c).alloc (.instanceOf c [])).1,
        { i with heap := ((i.heap.retain c).alloc (.instanceOf c [])).2 }) := rfl
  generalize (i.heap.retain c).alloc (.instanceOf c []) = cell at made kept allocated
  obtain ⟨self, heap⟩ := cell
  unfold instantiate
  rw [run_bind, retained]
  dsimp only
  rw [run_bind, allocated]
  dsimp only at made kept ⊢
  have looked : (get : Computation Interpreter).run { i with heap } = (.ok { i with heap }, { i with heap }) := rfl
  rw [run_bind, looked]
  dsimp only
  cases heap.classAttribute? c "__init__" with
  | none =>
    dsimp only
    by_cases none : args.isEmpty = true ∧ named.isEmpty = true
    · rw [if_pos none]
      exact made
    · have owed : heap.Owes ([self] ++ refs) := made
      rw [if_neg none]
      exact owed.releaseAll
  | some initializer =>
    have positional : ∀ a ∈ self :: args, 0 < heap.count a := by
      intro a member
      rcases List.mem_cons.1 member with rfl | member
      · exact made.count_pos_of_mem List.mem_cons_self
      · exact Nat.lt_of_lt_of_le (held a member) (kept.count a)
    have keyword : ∀ a ∈ named, 0 < heap.count a.2 := fun a member =>
      Nat.lt_of_lt_of_le (held' a member) (kept.count a.2)
    have called := accounts_invokeAt account (i := { i with heap }) initializer positional keyword _ made
    dsimp only
    rw [run_bind, run_tryCatch]
    rcases ran : (library.invokeAt initializer (self :: args) named).run { i with heap } with ⟨e | result, i'⟩
    · rw [ran] at called
      have owed : i'.heap.Owes ([self] ++ refs) := called
      exact owed.releaseAll
    · rw [ran] at called
      have owed : i'.heap.Owes ([result] ++ self :: refs) := called
      exact owed.releaseAll

/-- Calls of all objects account for references. -/
theorem accounts_call (callee : Ref) (held : ∀ a ∈ args, 0 < i.heap.count a)
    (held' : ∀ a ∈ named, 0 < i.heap.count a.2) : (library.call callee args named).Accounts i := by
  unfold call
  refine accounts_look_bind ?_
  cases object : i.heap.object callee with
  | cls => exact accounts_instantiate account (by simp [object]) held held'
  | builtinClass name => exact account _ args named i held held'
  | instanceOf c attributes =>
    intro refs owes
    have self : 0 < i.heap.count callee := owes.held (by simp [object])
    have looked : (get : Computation Interpreter).run i = (.ok i, i) := rfl
    dsimp only
    rw [run_bind, looked]
    dsimp only
    cases i.heap.classAttribute? c "__call__" with
    | none => exact owes
    | some f => exact accounts_invokeAt account f (List.forall_mem_cons.2 ⟨self, held⟩) held' refs owes
  | _ => exact accounts_invokeAt account callee held held'

omit args named i in
/-- Finalizers account for references if all functions do. -/
theorem finalizersAccount : library.FinalizersAccount := by
  intro i r f refs _ owes
  have held : ∀ a ∈ [r], 0 < i.heap.count a :=
    List.forall_mem_singleton.2 (owes.count_pos_of_mem List.mem_cons_self)
  have none : ∀ a ∈ ([] : List (String × Ref)), 0 < i.heap.count a.2 := List.forall_mem_nil _
  have called := accounts_call account f held none _ owes
  unfold finalize
  rcases ran : (library.call f [r] []).run i with ⟨e | result, i'⟩
  · rw [ran] at called
    exact called
  · rw [ran] at called
    have owed : i'.heap.Owes ([result] ++ r :: refs) := called
    exact owed.releaseAll

end

end Library

end InterpreterHost
