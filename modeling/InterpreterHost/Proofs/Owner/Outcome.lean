import InterpreterHost.Owner.Fetch

/-!
# Outcomes of jobs

A job ends in a result or in a panic.  This file states what a job ends in as a postcondition, so
that a fact about a job is put together from facts about its parts.

## Main definitions

* `Job.Ends` — the job gives a result of which one thing holds, or panics with one of which another
  does
* `Owner.Warns` — what is known of the panic that a warning may cause
* `Owner.Panics` — the panic that a warning causes

## Main statements

* `run_bind`, `of_run_bind`, `of_bind_eq_ok`, `of_bind_eq_error` — what code does that runs after other code
* `run_run_bind`, `of_run_run_bind` — the same of code that may fail in two ways
* `run_tryCatch` — what code does that is caught
* `Job.ends_bind` — one job after another
* `Job.ends_warn` — a warning panics only as the owner has it
-/

namespace InterpreterHost

/-! ## Running -/

section

variable {δ ε σ α β : Type}

/-- Code that may fail is run after other code if that has not failed. -/
theorem run_bind (code : ExceptT ε (StateM σ) α) (next : α → ExceptT ε (StateM σ) β) (s : σ) :
    (code >>= next).run s = match code.run s with
      | (.ok a, s') => (next a).run s'
      | (.error e, s') => (.error e, s') := by
  change (ExceptT.bind code next).run s = _
  simp only [ExceptT.bind, ExceptT.run, ExceptT.mk, bind, StateT.bind]
  rcases code s with ⟨result, s'⟩
  cases result <;> rfl

/-- What ran before code that has given a result has given one too. -/
theorem of_run_bind {code : ExceptT ε (StateM σ) α} {next : α → ExceptT ε (StateM σ) β} {s s' : σ}
    {b : β} (run : (code >>= next).run s = (.ok b, s')) :
    ∃ a s₁, code.run s = (.ok a, s₁) ∧ (next a).run s₁ = (.ok b, s') := by
  rw [run_bind] at run
  rcases first : code.run s with ⟨e | a, s₁⟩
  · rw [first] at run
    cases run
  · rw [first] at run
    exact ⟨a, s₁, rfl, run⟩

/-- Code that may fail is followed by its handler if it has failed. -/
theorem run_tryCatch (code : ExceptT ε (StateM σ) α) (handler : ε → ExceptT ε (StateM σ) α)
    (s : σ) : (tryCatch code handler).run s = match code.run s with
      | (.ok a, s') => (.ok a, s')
      | (.error e, s') => (handler e).run s' := by
  change (ExceptT.tryCatch code handler).run s = _
  simp only [ExceptT.tryCatch, ExceptT.run, ExceptT.mk, bind, StateT.bind]
  rcases code s with ⟨result, s'⟩
  cases result <;> rfl

/-- Code that may fail in two ways is run after other code if that has failed in neither. -/
theorem run_run_bind (code : ExceptT δ (ExceptT ε (StateM σ)) α) (next : α → ExceptT δ (ExceptT ε (StateM σ)) β)
    (s : σ) : (code >>= next).run.run s = match code.run.run s with
      | (.ok (.ok a), s') => (next a).run.run s'
      | (.ok (.error d), s') => (.ok (.error d), s')
      | (.error e, s') => (.error e, s') := by
  have unfolded : (code >>= next).run.run s =
      (ExceptT.run code >>= ExceptT.bindCont next : ExceptT ε (StateM σ) _).run s := rfl
  rw [unfolded, run_bind]
  rcases code.run.run s with ⟨e | d | a, s'⟩ <;> rfl

theorem run_run_bind_of_ok {code : ExceptT δ (ExceptT ε (StateM σ)) α}
    {next : α → ExceptT δ (ExceptT ε (StateM σ)) β} {a : α} {s s' : σ} (run : code.run.run s = (.ok (.ok a), s')) :
    (code >>= next).run.run s = (next a).run.run s' := by
  rw [run_run_bind, run]

/-- What ran before code that may fail in two ways and has given a result has given one too. -/
theorem of_run_run_bind {code : ExceptT δ (ExceptT ε (StateM σ)) α} {next : α → ExceptT δ (ExceptT ε (StateM σ)) β}
    {b : β} {s s' : σ} (run : (code >>= next).run.run s = (.ok (.ok b), s')) :
    ∃ a s₁, code.run.run s = (.ok (.ok a), s₁) ∧ (next a).run.run s₁ = (.ok (.ok b), s') := by
  rw [run_run_bind] at run
  rcases first : code.run.run s with ⟨e | d | a, s₁⟩
  · rw [first] at run
    cases run
  · rw [first] at run
    cases run
  · rw [first] at run
    exact ⟨a, s₁, rfl, run⟩

/-- What came before a result was a result. -/
theorem of_bind_eq_ok {first : Except ε α} {next : α → Except ε β} {b : β}
    (result : (first >>= next) = .ok b) : ∃ a, first = .ok a ∧ next a = .ok b := by
  cases first with
  | error e => cases result
  | ok a => exact ⟨a, rfl, result⟩

/-- What fails in two steps fails in the first or in the second. -/
theorem of_bind_eq_error {first : Except ε α} {next : α → Except ε β} {e : ε}
    (failed : (first >>= next) = .error e) : first = .error e ∨ ∃ a, first = .ok a ∧ next a = .error e := by
  cases first with
  | error e' =>
    cases failed
    exact .inl rfl
  | ok a => exact .inr ⟨a, rfl, failed⟩

theorem of_run_pure {a b : α} {s s' : σ}
    (run : (pure a : ExceptT ε (StateM σ) α).run s = (.ok b, s')) : a = b ∧ s = s' := by
  cases run
  exact ⟨rfl, rfl⟩

end

namespace Job

/-! ## Postconditions -/

/-- The job, started with `o`, gives a result and an owner of which `Q` holds, or panics with a panic
of which `E` holds. -/
def Ends (code : Job α) (o : Owner) (Q : α → Owner → Prop) (E : Panic → Prop) : Prop :=
  match code.run o with
  | (.ok a, o') => Q a o'
  | (.error p, _) => E p

/-! ## Parts of a job -/

section

variable {α β : Type} {o : Owner} {Q R : α → Owner → Prop} {E : Panic → Prop}

theorem ends_pure {a : α} : Ends (pure a) o Q E ↔ Q a o := Iff.rfl

theorem ends_throw {p : Panic} : Ends (throw p) o Q E ↔ E p := Iff.rfl

theorem ends_get {Q : Owner → Owner → Prop} : Ends get o Q E ↔ Q o o := Iff.rfl

theorem ends_set {o' : Owner} {Q : PUnit → Owner → Prop} : Ends (set o') o Q E ↔ Q () o' := Iff.rfl

theorem ends_modify {f : Owner → Owner} {Q : PUnit → Owner → Prop} :
    Ends (modify f) o Q E ↔ Q () (f o) := Iff.rfl

theorem ends_clearPending {Q : Unit → Owner → Prop} :
    Ends clearPending o Q E ↔ Q () { o with pending := none } := Iff.rfl

theorem ends_heap {Q : Heap → Owner → Prop} : Ends heap o Q E ↔ Q o.interpreter.heap o := Iff.rfl

/-- One job after another: the second starts with what the first leaves. -/
theorem ends_bind {code : Job α} {next : α → Job β} {Q : β → Owner → Prop} :
    Ends (code >>= next) o Q E ↔ Ends code o (fun a o' => Ends (next a) o' Q E) E := by
  unfold Ends
  rw [run_bind]
  rcases code.run o with ⟨result, o'⟩
  cases result <;> rfl

theorem Ends.imp {code : Job α} (h : Ends code o Q E) (weaker : ∀ a o', Q a o' → R a o') :
    Ends code o R E := by
  unfold Ends at *
  split at h
  · exact weaker _ _ h
  · exact h

/-- What is known of the panic may be weakened too. -/
theorem Ends.mono {code : Job α} {F : Panic → Prop} (h : Ends code o Q E)
    (weaker : ∀ a o', Q a o' → R a o') (panics : ∀ p, E p → F p) : Ends code o R F := by
  unfold Ends at *
  split at h
  · exact weaker _ _ h
  · exact panics _ h

/-- A job that cannot panic gives a result. -/
theorem Ends.exists_run {code : Job α} (h : Ends code o Q fun _ => False) :
    ∃ a o', code.run o = (.ok a, o') ∧ Q a o' := by
  unfold Ends at h
  split at h
  · next a o' run => exact ⟨a, o', run, h⟩
  · exact h.elim

end

end Job

/-! ## Warnings -/

/-- `E` holds of the panic that the next warning causes, if it causes one. -/
def Owner.Warns (o : Owner) (E : Panic → Prop) : Prop := ∀ text, o.panicOnWarning = some text → E ⟨text⟩

/-- The panic that the next warning causes. -/
def Owner.Panics (o : Owner) (p : Panic) : Prop := o.panicOnWarning = some p.message

theorem Owner.warns_panics (o : Owner) : o.Warns o.Panics := fun _ panics => panics

/-- A warning changes nothing but the log, unless it panics. -/
theorem Job.ends_warn {o : Owner} {E : Panic → Prop} {message : String} {path : Option String}
    (warns : o.Warns E) {Q : Unit → Owner → Prop}
    (h : o.panicOnWarning = none → Q () { o with log := o.log ++ [LogRecord.warning message path] }) :
    Ends (warn message path) o Q E := by
  unfold warn
  simp only [ends_bind, ends_get, ends_set]
  cases quiet : o.panicOnWarning with
  | none =>
    rw [ends_pure, ← quiet]
    exact h quiet
  | some text => exact ends_throw.2 (warns text quiet)

end InterpreterHost
