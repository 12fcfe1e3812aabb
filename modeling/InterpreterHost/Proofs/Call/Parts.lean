import InterpreterHost.Proofs.Marshal.Outliving

/-!
# The parts of a call

A call is made of code of the interpreter that is checked, of code whose error gets a context, and of code after
which references are let go of.  This file has the equations for them, and what it takes for each of them to give
a result.

## Main statements

* `Job.run_checked`, `Job.run_checkedCall`, `Call.run_during`, `Call.run_releasing` — the part gives a result if
  the code in it does
* `Job.of_run_checked`, `Job.of_run_checkedCall`, `Call.of_run_during`, `Call.of_run_releasing` — and only then
* `Job.of_run_placing` — a job that makes objects changes nothing but the heap
* `Call.run_callable`, `Call.run_callable_refused` — a function is found, or an object that is none
-/

namespace InterpreterHost

/-! ## Errors above panics -/

section

variable {δ δ' ε σ α : Type} {code : ExceptT ε (StateM σ) (Except δ α)} {f : δ → δ'} {a : α} {s s' : σ}

/-- Where there is no error, there is none to be put in other words. -/
theorem run_mapError_of_ok (f : δ → δ') (run : code.run s = (.ok (.ok a), s')) :
    (do return (← code).mapError f : ExceptT ε (StateM σ) _).run s = (.ok (.ok a), s') := by
  rw [run_bind, run]
  rfl

theorem of_run_mapError (run : (do return (← code).mapError f : ExceptT ε (StateM σ) _).run s = (.ok (.ok a), s')) :
    code.run s = (.ok (.ok a), s') := by
  obtain ⟨result, s₁, first, run⟩ := of_run_bind run
  cases result with
  | error e => cases run
  | ok a' =>
    cases run
    exact first

end

/-! ## Code of the interpreter in a job -/

namespace Job

variable {α : Type} {o o' : Owner} {i : Interpreter}

section

variable {code : Computation α} {a : α}

theorem run_evaluate (run : code.run o.interpreter = (.ok a, i)) :
    (evaluate code).run o = (.ok (some a), { o with interpreter := i }) := by
  unfold evaluate
  rw [run_get_bind, run]
  rfl

theorem of_run_evaluate (run : (evaluate code).run o = (.ok (some a), o')) :
    ∃ i, code.run o.interpreter = (.ok a, i) ∧ o' = { o with interpreter := i } := by
  unfold evaluate at run
  rw [run_get_bind] at run
  rcases ran : code.run o.interpreter with ⟨e | a', i⟩
  · rw [ran] at run
    cases run
  · rw [ran] at run
    cases run
    exact ⟨i, rfl, rfl⟩

theorem run_checked (run : code.run o.interpreter = (.ok a, i)) :
    (checked code).run o = (.ok (.ok a), { o with interpreter := i }) := by
  unfold checked
  rw [run_bind, run_evaluate run]
  rfl

/-- What has succeeded has had a result, and no exception was reported. -/
theorem of_run_orFetch {first : Job (Option α)} (run : (orFetch first).run o = (.ok (.ok a), o')) :
    first.run o = (.ok (some a), o') := by
  obtain ⟨result, o₁, ran, run⟩ := of_run_bind run
  cases result with
  | none =>
    obtain ⟨_, _, -, run⟩ := of_run_bind run
    cases run
  | some a' =>
    cases run
    exact ran

theorem of_run_checked (run : (checked code).run o = (.ok (.ok a), o')) :
    ∃ i, code.run o.interpreter = (.ok a, i) ∧ o' = { o with interpreter := i } := by
  rw [checked_eq] at run
  exact of_run_evaluate (of_run_orFetch run)

end

section

variable {code : Computation Ref} {r : Ref}

theorem run_checkedCall (calm : o.pending = none) (run : code.run o.interpreter = (.ok r, i)) :
    (checkedCall code).run o = (.ok (.ok r), { o with interpreter := i }) := by
  have evaluated : (evaluateCall code).run o = (.ok (some r), { o with interpreter := i }) := by
    unfold evaluateCall
    rw [run_get_bind, run_bind, run_evaluate run, calm]
    rfl
  unfold checkedCall
  rw [run_bind, evaluated]
  rfl

/-- A call that has a result has it of the code, while no exception was pending. -/
theorem of_run_evaluateCall (run : (evaluateCall code).run o = (.ok (some r), o')) :
    (evaluate code).run o = (.ok (some r), o') := by
  unfold evaluateCall at run
  rw [run_get_bind] at run
  obtain ⟨result, o₁, evaluated, run⟩ := of_run_bind run
  rw [evaluated]
  cases result with
  | none => cases run
  | some r' =>
    cases pending : o.pending with
    | none =>
      rw [pending] at run
      cases run
      rfl
    | some e =>
      rw [pending] at run
      obtain ⟨_, _, -, run⟩ := of_run_bind run
      cases run

theorem of_run_checkedCall (run : (checkedCall code).run o = (.ok (.ok r), o')) :
    ∃ i, code.run o.interpreter = (.ok r, i) ∧ o' = { o with interpreter := i } := by
  rw [checkedCall_eq] at run
  exact of_run_evaluate (of_run_evaluateCall (of_run_orFetch run))

end

/-- What was made was made in the heap as it was, and nothing else has changed there. -/
theorem of_run_placing {needsDates : Bool} {make : Heap → Except Raised Ref × Heap} {r : Ref}
    (run : (placing needsDates make).run o = (.ok (.ok r), o')) : ∃ h, make o.interpreter.heap = (.ok r, h) ∧
      o'.library = o.library ∧ o'.interpreter = { o.interpreter with heap := h } := by
  have settles : Owner.SettlesLookUps fun p => p.library = o.library ∧ p.interpreter = o.interpreter := by
    rintro p p' step same
    cases step <;> exact same
  have looks : Maintains (fun p => p.library = o.library ∧ p.interpreter = o.interpreter)
      (if needsDates then prepareDates else pure (.ok ())) := by
    split
    · exact maintains_prepareDates settles
    · exact .pure _
  rw [placing_eq] at run
  obtain ⟨ready, o₁, looked, run⟩ := of_run_bind run
  have kept := looks o ⟨rfl, rfl⟩
  rw [looked] at kept
  obtain ⟨library, interpreter⟩ := kept
  cases ready with
  | error why => cases run
  | ok =>
    unfold making at run
    rw [run_get_bind, interpreter] at run
    rcases made : make o.interpreter.heap with ⟨e | r', h⟩
    · rw [made] at run
      obtain ⟨_, _, -, run⟩ := of_run_bind run
      obtain ⟨_, _, -, run⟩ := of_run_bind run
      obtain ⟨_, _, -, run⟩ := of_run_bind run
      cases run
    · rw [made] at run
      cases run
      exact ⟨h, rfl, library, by rw [Owner.withHeap, interpreter]⟩

end Job

/-! ## The parts of a call -/

namespace Call

variable {α : Type} {o o' : Owner} {action kind name : String}

theorem run_during (action kind name : String) {code : Job (Except InterpreterError α)} {a : α}
    (run : code.run o = (.ok (.ok a), o')) : (during action kind name code).run.run o = (.ok (.ok a), o') :=
  run_mapError_of_ok _ run

theorem of_run_during {code : Job (Except InterpreterError α)} {a : α}
    (run : (during action kind name code).run.run o = (.ok (.ok a), o')) : code.run o = (.ok (.ok a), o') :=
  of_run_mapError run

theorem run_releasing (refs : List Ref) {code : Call α} {result : Except CallError α}
    (run : code.run.run o = (.ok result, o')) : (releasing refs code).run.run o = (.ok result, o'.lettingGo refs) := by
  have unfolded : (releasing refs code).run.run o = (Job.releasing refs code.run).run o := rfl
  rw [unfolded, Job.run_releasing, run]

theorem of_run_releasing {refs : List Ref} {code : Call α} {result : Except CallError α}
    (run : (releasing refs code).run.run o = (.ok result, o')) :
    ∃ o₁, code.run.run o = (.ok result, o₁) ∧ o' = o₁.lettingGo refs := by
  have unfolded : (releasing refs code).run.run o = (Job.releasing refs code.run).run o := rfl
  rw [unfolded, Job.run_releasing] at run
  rcases ran : code.run.run o with ⟨outcome, o₁⟩
  rw [ran] at run
  cases run
  exact ⟨o₁, rfl, rfl⟩

/-! ## Looking a function up -/

section

variable {r f : Ref} {i : Interpreter}

theorem run_getAttribute (name : String) (found : (o.library.getAttribute r name).run o.interpreter = (.ok f, i)) :
    (during "get" "function" name (Job.getAttribute r name)).run.run o =
      (.ok (.ok f), { o with interpreter := i }) := by
  refine run_during _ _ _ ?_
  unfold Job.getAttribute
  rw [Job.run_get_bind]
  exact Job.run_checked found

theorem of_run_getAttribute
    (run : (during "get" "function" name (Job.getAttribute r name)).run.run o = (.ok (.ok f), o')) :
    ∃ i, (o.library.getAttribute r name).run o.interpreter = (.ok f, i) ∧ o' = { o with interpreter := i } := by
  have got := of_run_during run
  unfold Job.getAttribute at got
  rw [Job.run_get_bind] at got
  exact Job.of_run_checked got

theorem run_isCallable (f : Ref) (o : Owner) :
    (isCallable f).run.run o = (.ok (.ok (o.interpreter.heap.isCallable f)), o) := rfl

/-- A function that can be called is found. -/
theorem run_callable (name : String) (found : (o.library.getAttribute r name).run o.interpreter = (.ok f, i))
    (callable : i.heap.isCallable f = true) :
    (Call.callable r name).run.run o = (.ok (.ok f), { o with interpreter := i }) := by
  unfold Call.callable
  rw [run_run_bind_of_ok (run_getAttribute name found), run_run_bind_of_ok (run_isCallable f _), if_pos callable]
  rfl

/-- What cannot be called is refused and let go of. -/
theorem run_callable_refused (name : String)
    (found : (o.library.getAttribute r name).run o.interpreter = (.ok f, i))
    (uncallable : i.heap.isCallable f = false) : (Call.callable r name).run.run o =
      (.ok (.error (.context "get" "function" name (.notCallable name))),
        Owner.lettingGo { o with interpreter := i } [f]) := by
  unfold Call.callable
  rw [run_run_bind_of_ok (run_getAttribute name found), run_run_bind_of_ok (run_isCallable f _),
    if_neg (by simp [uncallable])]
  exact run_releasing [f] rfl

end

end Call

end InterpreterHost
