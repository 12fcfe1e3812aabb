import InterpreterHost.Proofs.Call.Parts
import InterpreterHost.Proofs.Library.Copying

/-!
# References to results

What a call makes for its arguments is let go of at its end, and what the code of the library hands out are new
references.  So whoever called has one reference to the result, and all those that it had before.

## Main definitions

* `Library.CallsYield`, `Library.HandsOut` — what the library hands out are new references

## Main statements

* `Call.owes_of_run_object` — the result of a call is owed, and so is what was owed before

## Design notes

Nothing is asked of code that raises an exception: where there is no result there is none to be read.
-/

namespace InterpreterHost

namespace Library

/-- What a call of the object gives is a new reference, whatever was made in the meantime and is handed to it. -/
def CallsYield (library : Library) (i : Interpreter) (f : Ref) : Prop :=
  ∀ h args named r i', i.heap.Extends h → h.Owes [] → (∀ a ∈ args, 0 < h.count a) →
    (∀ a ∈ named, 0 < h.count a.2) → (library.call f args named).run { i with heap := h } = (.ok r, i') →
      (library.call f args named).Yields { i with heap := h } r i'

/-- What the interpreter hands out is a new reference: the attribute of the object, and what calls of it give. -/
def HandsOut (library : Library) (i : Interpreter) (target : Ref) (name : String) : Prop :=
  ∀ f i', (library.getAttribute target name).run i = (.ok f, i') →
    (library.getAttribute target name).Yields i f i' ∧ library.CallsYield i' f

end Library

/-! ## Arguments -/

/-- What was made is owed, and nothing but the heap has changed. -/
theorem Job.gains_of_run_placing {o o' : Owner} {needsDates : Bool} {make : Heap → Except Raised Ref × Heap}
    {r : Ref} {possible : Prop} {memory : Memory} {holds : Heap → Ref → Prop} {nodes : Heap → Ref → List Ref}
    (made : o.interpreter.heap.Result possible memory holds nodes (make o.interpreter.heap))
    (run : (placing needsDates make).run o = (.ok (.ok r), o')) :
    ∃ h, o.interpreter.heap.Gains h [r] (nodes h r) ∧ o'.library = o.library ∧
      o'.interpreter = { o.interpreter with heap := h } := by
  obtain ⟨h, placed, kept⟩ := of_run_placing run
  rw [placed] at made
  exact ⟨h, made.2.2, kept⟩

namespace Call

variable {o o' : Owner} {h : Heap} {refs : List Ref} {f r : Ref} {name : String} {args : List Value}
  {named : Option ValueMap}

/-- The positional arguments are there as long as the tuple of them is. -/
theorem held_of_mem_positionals (owes : h.Owes refs) {t a : Ref} (tuple : t ∈ refs) (mem : a ∈ positionals h t) :
    0 < h.count a := by
  have has := Heap.has_of_count_pos (owes.count_pos_of_mem tuple)
  unfold positionals at mem
  split at mem
  · next items object =>
    rw [object] at has
    exact owes.count_pos_of_child has mem
  · cases mem

/-- So are the named ones, as long as the dictionary is. -/
theorem held_of_mem_keywords (owes : h.Owes refs) {d : Ref} {a : String × Ref} (dict : d ∈ refs)
    (mem : a ∈ keywords h d) : 0 < h.count a.2 := by
  have has := Heap.has_of_count_pos (owes.count_pos_of_mem dict)
  unfold keywords at mem
  split at mem
  · next entries object =>
    rw [object] at has
    obtain ⟨e, entry, rfl⟩ := List.mem_map.1 mem
    exact owes.count_pos_of_child has (List.mem_flatMap.2 ⟨e, entry, by simp⟩)
  · cases mem

/-- The dictionary of the named arguments is owed, if there is one. -/
theorem owes_of_run_namedArguments {d : Option Ref} (distinct : ∀ m ∈ named, (Value.map m).Distinct)
    (singles : o.interpreter.heap.HasSingletons)
    (run : (namedArguments name named).run.run o = (.ok (.ok d), o')) :
    ∃ h, o'.library = o.library ∧ o'.interpreter = { o.interpreter with heap := h } ∧
      o.interpreter.heap.Extends h ∧ ∀ refs, o.interpreter.heap.Owes refs → h.Owes (d.toList ++ refs) := by
  rcases named with - | - | ⟨e, named⟩
  · cases run
    exact ⟨_, rfl, rfl, .refl _, fun _ => id⟩
  · cases run
    exact ⟨_, rfl, rfl, .refl _, fun _ => id⟩
  · obtain ⟨d', o₁, made, run⟩ := of_run_run_bind run
    cases run
    have placed : (Job.toObject (.map (e :: named))).run o = (.ok (.ok d'), o') := of_run_during made
    unfold Job.toObject at placed
    obtain ⟨h, gained, library, interpreter⟩ :=
      Job.gains_of_run_placing (Heap.place_yields (.map (e :: named)) _ {} singles (distinct _ rfl))
        placed
    exact ⟨h, library, interpreter, gained.grown, fun _ => gained.owes⟩

/-! ## The call -/

/-- A call with arguments that are there gives a new reference. -/
theorem owes_of_run_withObjects {i : Interpreter} {t : Ref} {d : Option Ref} (yields : o.library.CallsYield i f)
    (same : o.interpreter = { i with heap := h }) (extended : i.heap.Extends h)
    (owes : h.Owes (d.toList ++ t :: refs)) (run : (withObjects f t d).run o = (.ok (.ok r), o')) :
    o'.library = o.library ∧ o'.interpreter.heap.Owes (r :: (d.toList ++ t :: refs)) := by
  unfold withObjects at run
  rw [Job.run_get_bind] at run
  obtain ⟨i', called, rfl⟩ := Job.of_run_checkedCall run
  have heap : o.interpreter.heap = h := congrArg Interpreter.heap same
  rw [heap, same] at called
  have positional (a : Ref) (mem : a ∈ positionals h t) : 0 < h.count a :=
    held_of_mem_positionals owes (List.mem_append_right _ List.mem_cons_self) mem
  have keyword (a : String × Ref) (mem : a ∈ (d.map (keywords h)).getD []) : 0 < h.count a.2 := by
    cases d with
    | none => cases mem
    | some d => exact held_of_mem_keywords owes List.mem_cons_self mem
  exact ⟨rfl, (yields h _ _ r i' extended owes.forget positional keyword called).owes owes⟩

/-- The result of a call is owed, and so is what was owed before: what was made for the arguments is let go of. -/
theorem owes_of_run_object {action kind : String} (yields : o.library.CallsYield o.interpreter f)
    (account : o.library.FinalizersAccount) (distinct : ∀ v ∈ args, v.Distinct)
    (distinct' : ∀ m ∈ named, (Value.map m).Distinct) (singles : o.interpreter.heap.HasSingletons)
    (owes : o.interpreter.heap.Owes refs)
    (run : (object f action kind name args named).run.run o = (.ok (.ok r), o')) :
    o'.interpreter.heap.Owes (r :: refs) := by
  unfold object at run
  obtain ⟨t, o₁, arguments, released⟩ := of_run_run_bind run
  obtain ⟨o₂, bound, rfl⟩ := of_run_releasing released
  obtain ⟨d, o₃, keywords, released'⟩ := of_run_run_bind bound
  obtain ⟨o₄, called, rfl⟩ := of_run_releasing released'
  obtain ⟨h₁, gained, library₁, interpreter₁⟩ :=
    Job.gains_of_run_placing (Heap.placeArguments_result distinct {} singles) (of_run_during arguments)
  have heap₁ : o₁.interpreter.heap = h₁ := congrArg Interpreter.heap interpreter₁
  obtain ⟨h₂, library₂, interpreter₂, more, owes₂⟩ :=
    owes_of_run_namedArguments distinct' (heap₁ ▸ gained.grown.hasSingletons singles) keywords
  rw [heap₁] at more owes₂
  rw [interpreter₁] at interpreter₂
  have yields₃ : o₃.library.CallsYield o.interpreter f := by
    rw [library₂, library₁]
    exact yields
  obtain ⟨library₄, owed⟩ :=
    owes_of_run_withObjects yields₃ interpreter₂ (gained.grown.trans more) (owes₂ _ (gained.owes owes))
    (of_run_during called)
  have account₄ : o₄.library.FinalizersAccount := by
    rw [library₄, library₂, library₁]
    exact account
  -- The dictionary goes first, and the tuple after it.
  have left : (o₄.lettingGo d.toList).interpreter.heap.Owes (r :: t :: refs) :=
    Library.owes_letGo account₄ (owed.perm List.perm_middle.symm)
  exact Library.owes_letGo account₄ (left.perm (List.Perm.swap t r refs))

end Call

end InterpreterHost
