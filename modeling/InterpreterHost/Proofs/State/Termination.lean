import InterpreterHost.Proofs.State.Batches
import InterpreterHost.Proofs.State.Writability

/-!
# States that have ended

A state that was terminated has ended for good: whatever is asked of it is refused, and neither the
interpreter nor a sink gets to know of it.  A state that was not terminated never says that it was.

## Main definitions

* `Request` — what can be asked of a state of either kind
* `SharedState.Step`, `SharedState.Runs` — what comes of requests, one after the other
* `SharedState.ended` — what termination leaves of a state
* `SharedState.Inert` — a state that refuses all and does nothing
* `Action.Answers` — what is known of all answers of an action
* `SharedState.EndsOnce` — what is known of a state before and after it is terminated

## Main statements

* `SharedState.inert_ended`, `SharedState.Inert.runs` — a state that has ended is inert, and stays so
* `SharedState.Step.goesOn`, `SharedState.Runs.goesOn` — a state that nobody terminates goes on
* `SharedState.endsOnce` — both, for any requests

## Design notes

A model reads all of a source before it looks whether it has ended, so that a source that fails is
reported in place of the end.
-/

namespace InterpreterHost

/-- What can be asked of a state of either kind.  The last four are asked of models only. -/
inductive Request where
  | call (method : String) (args : List Value)
  | write (v : Value)
  | save (sink : Sink) (params : ValueMap)
  | load (source : Source) (params : ValueMap)
  | terminate
  | writeRow (row : Value)
  | fit (rows : List Value)
  | fitMaps (rows : List ValueMap)
  | predict (v : Value)

/-- The error that an answer reports, if it reports one. -/
def errorOf {ε α : Type} : Except ε α → Option ε
  | .error e => some e
  | .ok _ => none

namespace SharedState

/-! ## Requests -/

/-- What comes of a request that is answered: the error that is reported, and the state and the host
afterwards. -/
inductive Step : SharedState → Host → Request → Option StateError → SharedState → Host → Prop
  | call {s : SharedState} {h h' : Host} {method : String} {args : List Value}
      {answer : Except StateError Value} (run : (s.call method args).run h = (.ok answer, h')) :
      Step s h (.call method args) (errorOf answer) s h'
  | write {s s' : SharedState} {h h' : Host} {v : Value} {answer : Except StateError Unit}
      (run : (s.write v).run h = (.ok (s', answer), h')) : Step s h (.write v) (errorOf answer) s' h'
  | save {s : SharedState} {h h' : Host} {sink sink' : Sink} {params : ValueMap}
      {answer : Except StateError Unit} (run : (s.save sink params).run h = (.ok (answer, sink'), h')) :
      Step s h (.save sink params) (errorOf answer) s h'
  | load {s s' : SharedState} {h h' : Host} {source source' : Source} {params : ValueMap}
      {answer : Except StateError Unit}
      (run : (s.load source params).run h = (.ok (s', answer, source'), h')) :
      Step s h (.load source params) (errorOf answer) s' h'
  | terminate {s s' : SharedState} {h h' : Host} {answer : Except StateError Unit}
      (run : s.terminate.run h = (.ok (s', answer), h')) : Step s h .terminate (errorOf answer) s' h'
  | writeRow {m m' : Model} {h h' : Host} {row : Value} {answer : Except StateError (Option Value)}
      (run : (m.write row).run h = (.ok (m', answer), h')) :
      Step (.model m) h (.writeRow row) (errorOf answer) (.model m') h'
  | fit {m : Model} {h h' : Host} {rows : List Value} {answer : Except StateError Value}
      (run : (m.fit rows).run h = (.ok answer, h')) :
      Step (.model m) h (.fit rows) (errorOf answer) (.model m) h'
  | fitMaps {m : Model} {h h' : Host} {rows : List ValueMap} {answer : Except StateError Value}
      (run : (m.fit (rows.map .map)).run h = (.ok answer, h')) :
      Step (.model m) h (.fitMaps rows) (errorOf answer) (.model m) h'
  | predict {m : Model} {h h' : Host} {v : Value} {answer : Except StateError Value}
      (run : (m.predict v).run h = (.ok answer, h')) :
      Step (.model m) h (.predict v) (errorOf answer) (.model m) h'

/-- What comes of requests one after the other, each with the error that is reported.  In between the
process may do anything that is not done to the state. -/
inductive Runs (start : SharedState) (h₀ : Host) :
    List (Request × Option StateError) → SharedState → Host → Prop
  | start : Runs start h₀ [] start h₀
  | step {events : List (Request × Option StateError)} {s s' : SharedState} {h h' : Host} {q : Request}
      {e : Option StateError} (before : Runs start h₀ events s h) (next : Step s h q e s' h') :
      Runs start h₀ (events ++ [(q, e)]) s' h'
  | elsewhere {events : List (Request × Option StateError)} {s : SharedState} {h h' : Host}
      (before : Runs start h₀ events s h) : Runs start h₀ events s h'

/-! ## After the end -/

/-- What termination leaves of a state: its parameters, and no object and no row. -/
def ended : SharedState → SharedState
  | object o => object { o with object := { o.object with object := none } }
  | model m => model { m with rows := [], object := none }

/-- The error with which a state that has ended answers a request. -/
def refusal (s : SharedState) : Request → Option StateError
  | .write _ =>
    match s with
    | object o => some (if o.isWritable then .alreadyTerminated else .notWritable)
    | model _ => some .alreadyTerminated
  | .load source _ =>
    match s, source.failure with
    | model _, some reason => some (.stream reason)
    | _, _ => some .alreadyTerminated
  | .terminate => none
  | _ => some .alreadyTerminated

theorem exists_refusal_load (s : SharedState) (source : Source) (params : ValueMap) :
    ∃ e, s.refusal (.load source params) = some e := by
  cases s with
  | object o => exact ⟨_, rfl⟩
  | model m =>
    cases failure : source.failure with
    | none => exact ⟨.alreadyTerminated, by simp only [refusal, failure]⟩
    | some reason => exact ⟨.stream reason, by simp only [refusal, failure]⟩

/-- The octets of a source that are left once the state has refused to load it. -/
def leaves (s : SharedState) (source : Source) : Source :=
  match s with
  | object _ => source
  | model _ => { source with content := [] }

/-- A state that refuses all.  That an action is a mere answer says that the host stays as it is: no
job is run, no method is called, and nothing is written to a file or a sink. -/
structure Inert (s : SharedState) : Prop where
  isTerminated : s.isTerminated = true
  call : ∀ method args, s.call method args = return .error .alreadyTerminated
  write : ∀ v e, s.refusal (.write v) = some e → s.write v = return (s, .error e)
  save : ∀ sink params, s.save sink params = return (.error .alreadyTerminated, sink)
  load : ∀ source params e, s.refusal (.load source params) = some e →
    s.load source params = return (s, .error e, s.leaves source)
  terminate : s.terminate = return (s, .ok ())
  writeRow : ∀ m row, s = .model m → m.write row = return (m, .error .alreadyTerminated)
  fit : ∀ m rows, s = .model m → m.fit rows = return .error .alreadyTerminated
  predict : ∀ m v, s = .model m → m.predict v = return .error .alreadyTerminated
  pending : ∀ m, s = .model m → m.pending = 0

/-- A state that has ended is inert. -/
theorem inert_ended (s : SharedState) : s.ended.Inert := by
  cases s with
  | object o =>
    refine ⟨rfl, fun _ _ => rfl, ?_, fun _ _ => rfl, ?_, rfl, ?_, ?_, ?_, ?_⟩
    · intro v e refused
      simp only [ended, refusal, Option.some.injEq] at refused
      subst refused
      cases writable : o.isWritable <;> simp only [ended, SharedState.write, writable] <;> rfl
    · intro source params e refused
      cases refused
      rfl
    all_goals
      intro m
      intros
      contradiction
  | model m =>
    refine ⟨rfl, fun _ _ => rfl, ?_, fun _ _ => rfl, ?_, rfl, ?_, ?_, ?_, ?_⟩
    · intro v e refused
      cases refused
      rfl
    · intro source params e refused
      simp only [ended, refusal] at refused
      simp only [ended, SharedState.load, Model.load, Source.takeAll, leaves]
      cases failure : source.failure with
      | none =>
        rw [failure] at refused
        cases refused
        rfl
      | some reason =>
        rw [failure] at refused
        cases refused
        rfl
    all_goals
      intro m'
      intros
      rename_i same
      cases same
      rfl

/-- Termination leaves a state that has ended, whatever it reports. -/
theorem of_terminate {s s' : SharedState} {answer : Except StateError Unit} {h h' : Host}
    (run : s.terminate.run h = (.ok (s', answer), h')) : s' = s.ended := by
  cases s with
  | object o =>
    obtain ⟨⟨left, result⟩, h₁, first, run⟩ := of_run_bind run
    cases run
    unfold StateObject.terminate at first
    cases object : o.object.object with
    | none =>
      rw [object] at first
      cases first
      rfl
    | some i =>
      rw [object] at first
      obtain ⟨released, h₂, -, first⟩ := of_run_bind first
      cases first
      rfl
  | model m =>
    obtain ⟨⟨left, result⟩, h₁, first, run⟩ := of_run_bind run
    cases run
    rw [Model.of_terminate first]
    rfl

/-- A state that is inert stays as it is, and so does the host; the answer is its refusal. -/
theorem Inert.step {s s' : SharedState} {h h' : Host} {q : Request} {e : Option StateError}
    (inert : s.Inert) (next : Step s h q e s' h') : s' = s ∧ h' = h ∧ e = s.refusal q := by
  cases next with
  | call run =>
    rw [inert.call] at run
    cases run
    exact ⟨rfl, rfl, rfl⟩
  | @write _ _ _ _ v _ run =>
    obtain ⟨e, refused⟩ : ∃ e, s.refusal (.write v) = some e := by cases s <;> exact ⟨_, rfl⟩
    rw [inert.write v e refused] at run
    cases run
    exact ⟨rfl, rfl, refused.symm⟩
  | save run =>
    rw [inert.save] at run
    cases run
    exact ⟨rfl, rfl, rfl⟩
  | @load _ _ _ _ source _ params _ run =>
    obtain ⟨e, refused⟩ := s.exists_refusal_load source params
    rw [inert.load source params e refused] at run
    cases run
    exact ⟨rfl, rfl, refused.symm⟩
  | terminate run =>
    rw [inert.terminate] at run
    cases run
    exact ⟨rfl, rfl, rfl⟩
  | writeRow run =>
    rw [inert.writeRow _ _ rfl] at run
    cases run
    exact ⟨rfl, rfl, rfl⟩
  | fit run | fitMaps run =>
    rw [inert.fit _ _ rfl] at run
    cases run
    exact ⟨rfl, rfl, rfl⟩
  | predict run =>
    rw [inert.predict _ _ rfl] at run
    cases run
    exact ⟨rfl, rfl, rfl⟩

/-- Nothing that is asked of a state that is inert changes that. -/
theorem Inert.runs {s s' : SharedState} {h h' : Host} {events : List (Request × Option StateError)}
    (inert : s.Inert) (runs : Runs s h events s' h') :
    s' = s ∧ ∀ event ∈ events, event.2 = s.refusal event.1 := by
  induction runs with
  | start => exact ⟨rfl, List.forall_mem_nil _⟩
  | step before next ih =>
    obtain ⟨rfl, refused⟩ := ih
    obtain ⟨rfl, -, answer⟩ := inert.step next
    refine ⟨rfl, List.forall_mem_append.2 ⟨refused, ?_⟩⟩
    rw [List.forall_mem_singleton]
    exact answer
  | elsewhere before ih => exact ih

end SharedState

/-! ## Before the end -/

/-- Whatever the action answers, on any host, has the property. -/
def Action.Answers {α : Type} (P : α → Prop) (code : Action α) : Prop :=
  ∀ h a h', code.run h = (.ok a, h') → P a

namespace Action

variable {α β : Type} {P : β → Prop}

theorem answers_pure {b : β} (holds : P b) : Answers P (pure b) := by
  intro h a h' run
  cases run
  exact holds

theorem answers_bind {code : Action α} {next : α → Action β} {Q : α → Prop} (first : Answers Q code)
    (rest : ∀ a, Q a → Answers P (next a)) : Answers P (code >>= next) := by
  intro h b h' run
  obtain ⟨a, h₁, begun, run⟩ := of_run_bind run
  exact rest a (first h a h₁ begun) h₁ b h' run

/-- What the answer of the first part is does not matter. -/
theorem answers_bind_any {code : Action α} {next : α → Action β} (rest : ∀ a, Answers P (next a)) :
    Answers P (code >>= next) :=
  answers_bind (fun _ _ _ _ => trivial) fun a (_ : True) => rest a

end Action

/-- The answer does not say that the state has ended. -/
def GoesOn {α : Type} (answer : Except StateError α) : Prop := errorOf answer ≠ some .alreadyTerminated

namespace GoesOn

variable {α β : Type}

theorem ok (a : α) : GoesOn (.ok a) := fun same => by cases same

theorem error {e : StateError} (other : e ≠ .alreadyTerminated) : GoesOn (.error e : Except StateError α) :=
  fun same => other (Option.some.inj same)

theorem map {answer : Except StateError α} (goesOn : GoesOn answer) (f : α → β) :
    GoesOn (answer.map f) := by
  cases answer with
  | ok a => exact ok (f a)
  | error e => exact goesOn

/-- The errors of calls, of streams and of headers do not say so. -/
theorem mapError {ε : Type} {f : ε → StateError} (other : ∀ e, f e ≠ .alreadyTerminated)
    (result : Except ε α) : GoesOn (result.mapError f) := by
  cases result with
  | ok a => exact ok a
  | error e => exact error (other e)

theorem call (result : Except CallError α) : GoesOn (result.mapError .call) :=
  mapError (fun e same => by cases same) result

theorem read (source : Source) : GoesOn (Container.read source).1 := by
  have readExactly (source : Source) (n : Nat) : GoesOn (Container.readExactly source n).1 :=
    mapError (fun e same => by cases same) _
  have readHeader (source : Source) (length : UInt32) : GoesOn (Container.readHeader source length).1 := by
    unfold Container.readHeader
    split
    · refine error fun same => ?_
      split at same <;> cases same
    · exact mapError (fun e same => by cases same) _
  have readLength (source : Source) : GoesOn (Container.readLength source).1 := by
    unfold Container.readLength
    split
    · next e source₁ failed =>
      have goesOn := readExactly source 4
      rwa [failed] at goesOn
    · dsimp only
      split
      · exact error fun same => by cases same
      · exact readHeader _ _
  unfold Container.read
  split
  · next e source₁ failed =>
    have goesOn := readExactly source 1
    rwa [failed] at goesOn
  · dsimp only
    split
    · exact readLength _
    · exact error fun same => by cases same

end GoesOn

open InterpreterHost.Action

namespace TemporaryFile

theorem answers_create : Answers GoesOn create := by
  refine answers_bind_any fun config => answers_bind_any fun h => ?_
  split
  · exact answers_pure (.error fun same => by cases same)
  · exact answers_bind_any fun _ => answers_pure (.ok _)

end TemporaryFile

namespace StateObject

variable {s : StateObject}

theorem answers_call (alive : s.isTerminated = false) (method : String) (args : List Value) :
    Answers GoesOn (s.call method args) := by
  unfold call withObject
  split
  · exact answers_bind_any fun result => answers_pure (.call result)
  · next ended =>
    rw [isTerminated, ended] at alive
    cases alive

theorem answers_write (alive : s.isTerminated = false) (v : Value) : Answers GoesOn (s.write v) :=
  answers_bind (answers_call alive _ _) fun _ goesOn => answers_pure (goesOn.map _)

theorem answers_savePayload (i : Instance) (sink : Sink) (params : ValueMap) :
    Answers (fun saved => GoesOn saved.1) (savePayload i sink params) := by
  refine answers_bind TemporaryFile.answers_create fun created goesOn => ?_
  cases created with
  | error e => exact answers_pure goesOn
  | ok path =>
    refine answers_bind_any fun called => ?_
    cases called with
    | error e => exact answers_bind_any fun _ => answers_pure (.error fun same => by cases same)
    | ok v =>
      refine answers_bind_any fun found => ?_
      cases found with
      | none => exact answers_pure (.error fun same => by cases same)
      | some content =>
        dsimp only
        split
        · exact answers_bind_any fun _ => answers_pure (.error fun same => by cases same)
        · exact answers_bind_any fun _ => answers_pure (.ok _)

theorem answers_save (alive : s.isTerminated = false) (sink : Sink) (params : ValueMap) :
    Answers (fun saved => GoesOn saved.1) (s.save sink params) := by
  unfold save
  split
  · next ended =>
    rw [isTerminated, ended] at alive
    cases alive
  · split
    · next e sink₁ failed =>
      have goesOn : GoesOn (Container.write sink s.params).1 := .mapError (fun e same => by cases same) _
      rw [failed] at goesOn
      exact answers_pure goesOn
    · exact answers_savePayload _ _ _

theorem answers_loadPayload (header : StateParams) (source : Source) (params : ValueMap) :
    Answers (fun made => GoesOn made.1) (loadPayload header source params) := by
  refine answers_bind TemporaryFile.answers_create fun created goesOn => ?_
  cases created with
  | error e => exact answers_pure goesOn
  | ok path =>
    refine answers_bind_any fun sink => ?_
    split
    · exact answers_bind_any fun _ => answers_pure (.error fun same => by cases same)
    · refine answers_bind_any fun _ => answers_bind_any fun made => answers_bind_any fun _ => ?_
      exact answers_pure (.call made)

theorem answers_restore (source : Source) (params : ValueMap) :
    Answers (fun restored => GoesOn restored.1 ∧ ∀ s, restored.1 = .ok s → s.isTerminated = false)
      (restore source params) := by
  unfold restore
  split
  · next e source₁ failed =>
    have goesOn := GoesOn.read source
    rw [failed] at goesOn
    exact answers_pure ⟨goesOn, fun _ same => by cases same⟩
  · refine answers_bind (answers_loadPayload _ _ _) fun made goesOn => answers_pure ⟨goesOn.map _, ?_⟩
    intro s same
    rcases made with ⟨e | i, source₁⟩
    · cases same
    · cases same
      rfl

theorem answers_load (alive : s.isTerminated = false) (source : Source) (params : ValueMap) :
    Answers (fun left => left.1.isTerminated = false ∧ GoesOn left.2.1) (s.load source params) := by
  unfold load
  split
  · next ended =>
    rw [isTerminated, ended] at alive
    cases alive
  · refine answers_bind (answers_restore source params) fun restored goesOn => ?_
    split
    · exact answers_pure ⟨alive, goesOn.1⟩
    · refine answers_bind_any fun released => answers_pure ⟨goesOn.2 _ rfl, ?_⟩
      exact .mapError (fun e same => by cases same) _

theorem answers_terminate (s : StateObject) : Answers (fun left => GoesOn left.2) s.terminate := by
  dsimp only [terminate]
  split
  · exact answers_bind_any fun _ => answers_pure (.mapError (fun e same => by cases same) _)
  · exact answers_pure (.ok _)

end StateObject

namespace Model

variable {m : Model}

theorem answers_call (alive : m.isTerminated = false) (method : String) (args : List Value) :
    Answers GoesOn (m.call method args) := by
  unfold call
  split
  · exact answers_bind_any fun result => answers_pure (.call result)
  · next ended =>
    rw [isTerminated, ended] at alive
    cases alive

theorem answers_write (alive : m.isTerminated = false) (row : Value) :
    Answers (fun left => left.1.isTerminated = false ∧ GoesOn left.2) (m.write row) := by
  by_cases room : m.rows.length + 1 < m.params.batchSize
  · rw [write_of_lt alive room]
    exact answers_pure ⟨alive, .ok _⟩
  · rw [write_of_le alive (Nat.not_lt.1 room)]
    refine answers_bind (answers_call alive _ _) fun fitted goesOn => ?_
    cases fitted with
    | error e => exact answers_pure ⟨alive, goesOn⟩
    | ok result => exact answers_bind_any fun _ => answers_pure ⟨alive, .ok _⟩

theorem answers_save (alive : m.isTerminated = false) (sink : Sink) :
    Answers (fun saved => GoesOn saved.1) (m.save sink) := by
  refine answers_bind (answers_call alive _ _) fun saved goesOn => ?_
  split
  · exact answers_pure goesOn
  · exact answers_pure (.mapError (fun e same => by cases same) _)
  · exact answers_pure (.error fun same => by cases same)

theorem answers_load (alive : m.isTerminated = false) (source : Source) :
    Answers (fun left => GoesOn left.1) (m.load source) := by
  unfold load
  split
  · exact answers_pure (.error fun same => by cases same)
  · exact answers_bind (answers_call alive _ _) fun called goesOn => answers_pure (goesOn.map _)

theorem answers_terminate (m : Model) : Answers (fun left => GoesOn left.2) m.terminate := by
  dsimp only [terminate]
  split
  · exact answers_bind_any fun _ => answers_pure (.mapError (fun e same => by cases same) _)
  · exact answers_pure (.ok _)

end Model

namespace SharedState

/-- What is asked of a state that goes on is not answered with its end, and leaves a state that goes
on unless it was the end. -/
theorem Step.goesOn {s s' : SharedState} {h h' : Host} {q : Request} {e : Option StateError}
    (alive : s.isTerminated = false) (next : Step s h q e s' h') :
    e ≠ some .alreadyTerminated ∧ (q ≠ .terminate → s'.isTerminated = false) := by
  cases next with
  | call run =>
    cases s with
    | object o => exact ⟨StateObject.answers_call alive _ _ _ _ _ run, fun _ => alive⟩
    | model m => exact ⟨Model.answers_call alive _ _ _ _ _ run, fun _ => alive⟩
  | @write _ _ _ _ v _ run =>
    cases s with
    | object o =>
      cases writable : o.isWritable with
      | false =>
        rw [ObjectState.write_of_not_isWritable writable] at run
        cases run
        exact ⟨fun same => (by cases same), fun _ => alive⟩
      | true =>
        rw [ObjectState.write_of_isWritable writable] at run
        obtain ⟨result, h₁, first, run⟩ := of_run_bind run
        cases run
        exact ⟨StateObject.answers_write alive _ _ _ _ first, fun _ => alive⟩
    | model m =>
      obtain ⟨⟨left, result⟩, h₁, first, run⟩ := of_run_bind run
      cases run
      obtain ⟨alive', goesOn⟩ := Model.answers_write alive v _ _ _ first
      exact ⟨goesOn.map _, fun _ => alive'⟩
  | save run =>
    cases s with
    | object o => exact ⟨StateObject.answers_save alive _ _ _ _ _ run, fun _ => alive⟩
    | model m => exact ⟨Model.answers_save alive _ _ _ _ run, fun _ => alive⟩
  | load run =>
    cases s with
    | object o =>
      obtain ⟨⟨left, result, source₁⟩, h₁, first, run⟩ := of_run_bind run
      cases run
      obtain ⟨alive', goesOn⟩ := StateObject.answers_load alive _ _ _ _ _ first
      exact ⟨goesOn, fun _ => alive'⟩
    | model m =>
      obtain ⟨⟨result, source₁⟩, h₁, first, run⟩ := of_run_bind run
      cases run
      exact ⟨Model.answers_load alive _ _ _ _ first, fun _ => alive⟩
  | terminate run =>
    cases s with
    | object o =>
      obtain ⟨⟨left, result⟩, h₁, first, run⟩ := of_run_bind run
      cases run
      exact ⟨StateObject.answers_terminate _ _ _ _ first, fun other => (other rfl).elim⟩
    | model m =>
      obtain ⟨⟨left, result⟩, h₁, first, run⟩ := of_run_bind run
      cases run
      exact ⟨Model.answers_terminate _ _ _ _ first, fun other => (other rfl).elim⟩
  | writeRow run =>
    obtain ⟨alive', goesOn⟩ := Model.answers_write alive _ _ _ _ run
    exact ⟨goesOn, fun _ => alive'⟩
  | fit run | fitMaps run | predict run => exact ⟨Model.answers_call alive _ _ _ _ _ run, fun _ => alive⟩

/-- As long as nobody ends the state it goes on and says nothing else. -/
theorem Runs.goesOn {s s' : SharedState} {h h' : Host} {events : List (Request × Option StateError)}
    (alive : s.isTerminated = false) (runs : Runs s h events s' h')
    (unasked : ∀ event ∈ events, event.1 ≠ .terminate) :
    s'.isTerminated = false ∧ ∀ event ∈ events, event.2 ≠ some .alreadyTerminated := by
  induction runs with
  | start => exact ⟨alive, List.forall_mem_nil _⟩
  | step before next ih =>
    rw [List.forall_mem_append, List.forall_mem_singleton] at unasked
    obtain ⟨alive', silent⟩ := ih unasked.1
    obtain ⟨answer, alive''⟩ := next.goesOn alive'
    refine ⟨alive'' unasked.2, List.forall_mem_append.2 ⟨silent, ?_⟩⟩
    rw [List.forall_mem_singleton]
    exact answer
  | elsewhere before ih => exact ih unasked

/-! ## States that are made -/

/-- The states that creators make, anew or from what was saved. -/
inductive Made (s : SharedState) : Prop
  | created {c : Creator} {params : ValueMap} {h h' : Host}
      (run : (c.create params).run h = (.ok (.ok s), h')) : Made s
  | loaded {c : Creator} {source source' : Source} {params : ValueMap} {h h' : Host}
      (run : (c.load source params).run h = (.ok (.ok s, source'), h')) : Made s

/-- A model that is made has not ended. -/
theorem isTerminated_of_createModel {params : ValueMap} {m : Model} {h h' : Host}
    (run : (Creator.createModel params).run h = (.ok (.ok m), h')) : m.isTerminated = false := by
  unfold Creator.createModel at run
  split at run
  · cases run
  · exact (Model.of_make run).2.2.1

/-- A state that is made has not ended. -/
theorem Made.isTerminated {s : SharedState} (made : Made s) : s.isTerminated = false := by
  cases made with
  | @created c params h h' run =>
    cases c with
    | object fixed =>
      obtain ⟨created, h₁, first, run⟩ := of_run_bind run
      cases created with
      | error e => cases run
      | ok o =>
        cases run
        unfold Creator.createObject at first
        split at first
        · cases first
        · obtain ⟨result, h₂, run, first⟩ := of_run_bind first
          obtain ⟨i, h₃, -, run⟩ := of_run_bind run
          cases i <;> cases run <;> cases first
          rfl
    | model =>
      obtain ⟨created, h₁, first, run⟩ := of_run_bind run
      cases created with
      | error e => cases run
      | ok m =>
        cases run
        exact isTerminated_of_createModel first
  | @loaded c source source' params h h' run =>
    cases c with
    | object fixed =>
      obtain ⟨⟨restored, source₁⟩, h₁, first, run⟩ := of_run_bind run
      cases restored with
      | error e => cases run
      | ok o =>
        cases run
        exact (StateObject.answers_restore _ _ _ _ _ first).2 o rfl
    | model =>
      obtain ⟨⟨loaded, source₁⟩, h₁, first, run⟩ := of_run_bind run
      cases loaded with
      | error e => cases run
      | ok m =>
        cases run
        unfold Creator.loadModel at first
        split at first
        · cases first
        · obtain ⟨created, h₂, made, first⟩ := of_run_bind first
          cases created with
          | error e => cases first
          | ok made' =>
            obtain ⟨⟨result, source₂⟩, h₃, -, first⟩ := of_run_bind first
            cases result with
            | error e =>
              obtain ⟨_, h₄, -, first⟩ := of_run_bind first
              cases first
            | ok =>
              cases first
              exact isTerminated_of_createModel made

/-! ## The end of a state -/

/-- What is known of the end of a state. -/
structure EndsOnce (s : SharedState) : Prop where
  /-- A state that is made has not ended. -/
  made : Made s → s.isTerminated = false
  /-- Until it is terminated it goes on, and no answer says that it has ended. -/
  goesOn : s.isTerminated = false → ∀ h events s' h', Runs s h events s' h' →
    (∀ event ∈ events, event.1 ≠ .terminate) →
      s'.isTerminated = false ∧ (∀ event ∈ events, event.2 ≠ some .alreadyTerminated) ∧
        ∀ h q e s'' h'', Step s' h q e s'' h'' → e ≠ some .alreadyTerminated
  /-- Termination ends it, whatever it answers, and leaves its parameters. -/
  terminate : ∀ h answer s' h', s.terminate.run h = (.ok (s', answer), h') → s' = s.ended
  /-- Then it refuses all and does nothing, -/
  inert : s.ended.Inert
  /-- and whatever is asked of it, this stays so. -/
  forever : ∀ h events s' h', Runs s.ended h events s' h' →
    s' = s.ended ∧ ∀ event ∈ events, event.2 = s.ended.refusal event.1

/-- A state ends when it is terminated, not before, and for good. -/
theorem endsOnce (s : SharedState) : EndsOnce s where
  made := Made.isTerminated
  goesOn alive h events s' h' runs unasked := by
    obtain ⟨alive', silent⟩ := runs.goesOn alive unasked
    exact ⟨alive', silent, fun _ _ _ _ _ next => (next.goesOn alive').1⟩
  terminate _ _ _ _ run := of_terminate run
  inert := inert_ended s
  forever _ _ _ _ runs := s.inert_ended.runs runs

/-- A model is made and terminated.  When it is to load from a source that fails, the source is read
first, and the answer is the failure and not that the model has ended. -/
theorem load_ended_failing :
    ∃ m h₁ answer h₂, (Creator.model.create Model.pairMap).run Model.pairHost = (.ok (.ok (model m)), h₁) ∧
      (model m).terminate.run h₁ = (.ok ((model m).ended, answer), h₂) ∧
      (model m).ended.isTerminated = true ∧
      ((model m).ended.load ⟨[1], some "no more"⟩ []).run h₂ =
        (.ok ((model m).ended, .error (.stream "no more"), ⟨[], some "no more"⟩), h₂) ∧
      StateError.stream "no more" ≠ .alreadyTerminated := by
  obtain ⟨m, h₁, made⟩ : ∃ m h₁, (Creator.createModel Model.pairMap).run Model.pairHost = (.ok (.ok m), h₁) := by
    have makes : (((Creator.createModel Model.pairMap).run Model.pairHost).1.toOption.bind
        Except.toOption).isSome = true := by
      decide +kernel
    rcases ran : (Creator.createModel Model.pairMap).run Model.pairHost with ⟨panic | error | m, h₁⟩
    · rw [ran] at makes
      cases makes
    · rw [ran] at makes
      cases makes
    · exact ⟨m, h₁, rfl⟩
  have created : (Creator.model.create Model.pairMap).run Model.pairHost = (.ok (.ok (model m)), h₁) :=
    run_bind_of_ok made
  have ready : h₁.Ready := by
    unfold Creator.createModel at made
    split at made
    · cases made
    · exact (Model.of_make made).2.2.2
  obtain ⟨⟨left, answer⟩, h₂, ended, -⟩ := m.keeps_terminate.exists_run ready
  have terminated : (model m).terminate.run h₁ = (.ok (model left, answer), h₂) := run_bind_of_ok ended
  rw [of_terminate terminated] at terminated
  refine ⟨m, h₁, answer, h₂, created, terminated, (inert_ended _).isTerminated, ?_, by decide⟩
  rw [(inert_ended (model m)).load _ _ (.stream "no more") rfl]
  rfl

end SharedState

end InterpreterHost
