import Mathlib.Control.Monad.Basic
import Mathlib.Logic.Basic
import InterpreterHost.Proofs.State.Saving

/-!
# Which states can be written to

Whether a state can be written to is settled when it is made, by the parameters that it is made with.
What is loaded later brings parameters of its own, so the two may come to differ: a state that can be
written to may have no method for that, and one that has a method may refuse.  This file tells when
they agree.

## Main definitions

* `Operation` — what is done to a state
* `ObjectState.Made` — the states that a creator makes
* `ObjectState.Step`, `ObjectState.Reaches` — what operations leave of a state
* `ObjectState.Settled` — what a state says of being written to after operations

## Main statements

* `ObjectState.settled_of_step` — an operation changes the parameters at most, and those only by
  loading
* `ObjectState.settled` — what is settled when a state is made stays, whatever is done to it
-/

namespace InterpreterHost

/-! ## Parameters of what is loaded -/

namespace StateObject

variable {s s' : StateObject} {source source' : Source} {params : ValueMap} {h h' : Host}

/-- A state that is read has the parameters that its source begins with. -/
theorem read_of_restore (run : (restore source params).run h = (.ok (.ok s, source'), h')) :
    ∃ rest, Container.read source = (.ok s.params, rest) := by
  rcases header : Container.read source with ⟨e | p, rest⟩
  · rw [restore, header] at run
    cases run
  · rw [params_of_restore header run]
    exact ⟨rest, rfl⟩

/-- A state that is loaded keeps its parameters or has those that the source begins with. -/
theorem params_of_load {result : Except StateError Unit}
    (run : (s.load source params).run h = (.ok (s', result, source'), h')) :
    s' = s ∨ ∃ rest, Container.read source = (.ok s'.params, rest) := by
  rcases restored_of_load run with ⟨same, -⟩ | ⟨source₁, h₁, first⟩
  · exact .inl same
  · exact .inr (read_of_restore first)

/-- An object that is terminated keeps its parameters. -/
theorem params_of_terminate {result : Except StateError Unit}
    (run : s.terminate.run h = (.ok (s', result), h')) : s'.params = s.params := by
  unfold terminate at run
  cases object : s.object with
  | none =>
    rw [object] at run
    cases run
    rfl
  | some i =>
    rw [object] at run
    obtain ⟨released, h₁, -, run⟩ := of_run_bind run
    obtain ⟨same, -⟩ := of_run_pure run
    rw [← (Prod.mk.inj same).1]

/-- A method that is called never finds that the state cannot be written to. -/
theorem call_ne_notWritable {method : String} {args : List Value} :
    (s.call method args).run h ≠ (.ok (.error .notWritable), h') := by
  intro run
  unfold call withObject at run
  cases object : s.object with
  | none =>
    rw [object] at run
    cases run
  | some i =>
    rw [object] at run
    obtain ⟨result, h₁, -, run⟩ := of_run_bind run
    obtain ⟨same, -⟩ := of_run_pure run
    cases result <;> cases same

end StateObject

/-! ## Operations -/

/-- What is done to a state. -/
inductive Operation where
  | call (method : String) (args : List Value)
  | write (v : Value)
  | save (sink : Sink) (params : ValueMap)
  | load (source : Source) (params : ValueMap)
  | terminate

/-- The operation loads a container with these parameters. -/
def Operation.Loads (op : Operation) (p : StateParams) : Prop :=
  ∃ source params rest, op = .load source params ∧ Container.read source = (.ok p, rest)

/-- Do something to a state, for what it leaves of it. -/
def SharedState.perform (s : SharedState) : Operation → Action SharedState
  | .call method args => do
    let _ ← s.call method args
    return s
  | .write v => return (← s.write v).1
  | .save sink params => do
    let _ ← s.save sink params
    return s
  | .load source params => return (← s.load source params).1
  | .terminate => return (← s.terminate).1

namespace ObjectState

/-- The states that a creator makes, anew or from what was saved. -/
inductive Made : ObjectState → Prop
  | created {fixed : Option StateParams} {params : ValueMap} {s : ObjectState} {h h' : Host}
      (run : (Creator.createObject fixed params).run h = (.ok (.ok s), h')) : Made s
  | loaded {fixed : Option StateParams} {source source' : Source} {params : ValueMap}
      {s : ObjectState} {h h' : Host}
      (run : ((Creator.object fixed).load source params).run h =
        (.ok (.ok (.object s), source'), h')) : Made s

/-- What an operation leaves of a state, on any host.  One that panics leaves it as it was. -/
inductive Step (s : ObjectState) (op : Operation) : ObjectState → Prop
  | done {s' : ObjectState} {h h' : Host}
      (run : ((SharedState.object s).perform op).run h = (.ok (.object s'), h')) : Step s op s'
  | panicked {p : Panic} {h h' : Host}
      (run : ((SharedState.object s).perform op).run h = (.error p, h')) : Step s op s

/-- What operations leave of a state, one after the other. -/
inductive Reaches (made : ObjectState) : List Operation → ObjectState → Prop
  | start : Reaches made [] made
  | step {ops : List Operation} {op : Operation} {s s' : ObjectState} (before : Reaches made ops s)
      (next : Step s op s') : Reaches made (ops ++ [op]) s'

/-! ## What is settled -/

/-- A state is made with the parameters that tell whether it can be written to. -/
theorem Made.isWritable_eq {s : ObjectState} (made : Made s) :
    s.isWritable = s.object.params.isWritable := by
  cases made with
  | created run =>
    unfold Creator.createObject at run
    split at run
    · cases run
    · obtain ⟨result, h₁, -, run⟩ := of_run_bind run
      obtain ⟨same, -⟩ := of_run_pure run
      cases result <;> cases same
      rfl
  | loaded run =>
    unfold Creator.load at run
    obtain ⟨⟨restored, source₁⟩, h₁, -, run⟩ := of_run_bind run
    obtain ⟨same, -⟩ := of_run_pure run
    cases restored <;> cases same
    rfl

/-- An operation on an object leaves an object.  It can be written to as before, and its parameters
are those that it had or that were loaded. -/
theorem of_perform {s : ObjectState} {op : Operation} {left : SharedState} {h h' : Host}
    (run : ((SharedState.object s).perform op).run h = (.ok left, h')) :
    ∃ s' : ObjectState, left = .object s' ∧ s'.isWritable = s.isWritable ∧
      (s'.object.params = s.object.params ∨ op.Loads s'.object.params) := by
  cases op with
  | call method args =>
    obtain ⟨result, h₁, -, run⟩ := of_run_bind run
    obtain ⟨rfl, -⟩ := of_run_pure run
    exact ⟨s, rfl, rfl, .inl rfl⟩
  | save sink params =>
    obtain ⟨result, h₁, -, run⟩ := of_run_bind run
    obtain ⟨rfl, -⟩ := of_run_pure run
    exact ⟨s, rfl, rfl, .inl rfl⟩
  | write v =>
    obtain ⟨⟨written, result⟩, h₁, first, run⟩ := of_run_bind run
    obtain ⟨rfl, -⟩ := of_run_pure run
    refine ⟨s, ?_, rfl, .inl rfl⟩
    simp only [SharedState.write] at first
    split at first
    · obtain ⟨answer, h₂, -, first⟩ := of_run_bind first
      obtain ⟨same, -⟩ := of_run_pure first
      exact (Prod.mk.inj same).1.symm
    · obtain ⟨same, -⟩ := of_run_pure first
      exact (Prod.mk.inj same).1.symm
  | load source params =>
    obtain ⟨⟨loaded, result, source₁⟩, h₁, first, run⟩ := of_run_bind run
    obtain ⟨rfl, -⟩ := of_run_pure run
    obtain ⟨⟨restored, answer, source₂⟩, h₂, first, same⟩ := of_run_bind first
    obtain ⟨same, -⟩ := of_run_pure same
    refine ⟨{ s with object := restored }, (Prod.mk.inj same).1.symm, rfl, ?_⟩
    rcases StateObject.params_of_load first with rfl | ⟨rest, header⟩
    · exact .inl rfl
    · exact .inr ⟨source, params, rest, rfl, header⟩
  | terminate =>
    obtain ⟨⟨left, result⟩, h₁, first, run⟩ := of_run_bind run
    obtain ⟨rfl, -⟩ := of_run_pure run
    obtain ⟨⟨ended, answer⟩, h₂, first, same⟩ := of_run_bind first
    obtain ⟨same, -⟩ := of_run_pure same
    exact ⟨{ s with object := ended }, (Prod.mk.inj same).1.symm, rfl,
      .inl (StateObject.params_of_terminate first)⟩

/-- A state that loads has the object that is loaded. -/
theorem step_load {s : ObjectState} {loaded : StateObject} {source source' : Source}
    {params : ValueMap} {result : Except StateError Unit} {h h' : Host}
    (run : (s.object.load source params).run h = (.ok (loaded, result, source'), h')) :
    Step s (.load source params) { s with object := loaded } := by
  have done : ((SharedState.object s).perform (.load source params)).run h =
      (.ok (.object { s with object := loaded }), h') := by
    simp only [SharedState.perform, SharedState.load, run_bind, run]
    rfl
  exact .done done

/-- A step keeps whether the state can be written to, and changes the parameters only by loading. -/
theorem of_step {s s' : ObjectState} {op : Operation} (next : Step s op s') :
    s'.isWritable = s.isWritable ∧
      (s'.object.params = s.object.params ∨ op.Loads s'.object.params) := by
  cases next with
  | done run =>
    obtain ⟨left, same, kept, params⟩ := of_perform run
    cases same
    exact ⟨kept, params⟩
  | panicked run => exact ⟨rfl, .inl rfl⟩

theorem of_reaches {made s : ObjectState} {ops : List Operation} (reaches : Reaches made ops s) :
    s.isWritable = made.isWritable ∧
      (s.object.params = made.object.params ∨ ∃ op ∈ ops, op.Loads s.object.params) := by
  induction reaches with
  | start => exact ⟨rfl, .inl rfl⟩
  | @step ops op s s' before next ih =>
    obtain ⟨kept, params⟩ := of_step next
    refine ⟨kept.trans ih.1, ?_⟩
    rcases params with same | loads
    · rw [same]
      exact ih.2.imp_right fun ⟨op, mem, loads⟩ => ⟨op, List.mem_append_left _ mem, loads⟩
    · exact .inr ⟨op, by simp, loads⟩

/-! ## Writing -/

/-- A state that cannot be written to says so and does nothing else. -/
theorem write_of_not_isWritable {s : ObjectState} (fixed : s.isWritable = false) (v : Value) :
    (SharedState.object s).write v = return (.object s, .error .notWritable) := by
  simp only [SharedState.write, fixed]
  rfl

/-- A state that can be written to hands the value to its object. -/
theorem write_of_isWritable {s : ObjectState} (open' : s.isWritable = true) (v : Value) :
    (SharedState.object s).write v = do
      let result ← s.object.write v
      return (.object s, result) := by
  simp only [SharedState.write, open', if_true]

/-- The object hands it to the method that the parameters name now. -/
theorem write_eq_call {s : ObjectState} (open' : s.isWritable = true) (v : Value) :
    (SharedState.object s).write v = do
      let result ← s.object.call s.object.params.writeMethod [v]
      return (.object s, result.map fun _ => ()) := by
  simp only [write_of_isWritable open', StateObject.write, bind_assoc, pure_bind]

/-- The answer is that the state cannot be written to exactly if that is so. -/
theorem write_eq_notWritable_iff {s : ObjectState} {v : Value} {h : Host} :
    (∃ left h', ((SharedState.object s).write v).run h = (.ok (left, .error .notWritable), h')) ↔
      s.isWritable = false := by
  constructor
  · rintro ⟨left, h', run⟩
    cases open' : s.isWritable with
    | false => rfl
    | true =>
      rw [write_eq_call open'] at run
      obtain ⟨result, h₁, first, run⟩ := of_run_bind run
      obtain ⟨same, -⟩ := of_run_pure run
      cases result <;> cases same
      exact absurd first StateObject.call_ne_notWritable
  · intro fixed
    rw [write_of_not_isWritable fixed]
    exact ⟨_, _, rfl⟩

/-! ## States after operations -/

/-- What a state says of being written to, after operations on one that was made. -/
structure Settled (made : ObjectState) (ops : List Operation) (s : ObjectState) : Prop where
  /-- It can be written to exactly if it was made with a method for that. -/
  isWritable : s.isWritable = true ↔ made.object.params.writeMethod ≠ ""
  /-- Its parameters are those it was made with, or of a container that was loaded. -/
  params : s.object.params = made.object.params ∨ ∃ op ∈ ops, op.Loads s.object.params
  /-- So being writable and naming a method are one exactly as long as the parameters name a method
  if those did that it was made with; -/
  agrees : (s.isWritable = true ↔ s.object.params.writeMethod ≠ "") ↔
    (s.object.params.writeMethod = "" ↔ made.object.params.writeMethod = "")
  /-- and this they do if all containers that are loaded do. -/
  alike : (∀ op ∈ ops, ∀ p, op.Loads p →
      (p.writeMethod = "" ↔ made.object.params.writeMethod = "")) →
    (s.isWritable = true ↔ s.object.params.writeMethod ≠ "")
  /-- A write is refused exactly if the state was made without a method, -/
  refused : ∀ v h, (∃ left h', ((SharedState.object s).write v).run h =
      (.ok (left, .error .notWritable), h')) ↔ made.object.params.writeMethod = ""
  /-- and otherwise goes to the method that is named now, even if that is the empty text. -/
  dispatched : made.object.params.writeMethod ≠ "" → ∀ v, (SharedState.object s).write v = do
    let result ← s.object.call s.object.params.writeMethod [v]
    return (.object s, result.map fun _ => ())

/-- Whether a state can be written to is settled when it is made; what it loads may speak otherwise. -/
theorem settled {made s : ObjectState} {ops : List Operation} (origin : Made made)
    (reaches : Reaches made ops s) : Settled made ops s := by
  obtain ⟨kept, params⟩ := of_reaches reaches
  have isWritable : s.isWritable = true ↔ made.object.params.writeMethod ≠ "" := by
    rw [kept, origin.isWritable_eq, StateParams.isWritable, decide_eq_true_iff]
  have fixed : s.isWritable = false ↔ made.object.params.writeMethod = "" := by
    rw [← Bool.not_eq_true, isWritable, not_not]
  have agrees : (s.isWritable = true ↔ s.object.params.writeMethod ≠ "") ↔
      (s.object.params.writeMethod = "" ↔ made.object.params.writeMethod = "") := by
    rw [isWritable, not_iff_not]
    exact Iff.comm
  refine ⟨isWritable, params, agrees, fun alike => agrees.2 ?_, ?_, ?_⟩
  · rcases params with same | ⟨op, mem, loads⟩
    · rw [same]
    · exact alike op mem _ loads
  · intro v h
    rw [write_eq_notWritable_iff, fixed]
  · intro named
    exact write_eq_call (isWritable.2 named)

/-! ## A class that makes nothing -/

/-- A module with a class whose functions give `None`. -/
def blankLibrary : Library :=
  let nothing : Routine := .native fun _ _ => Computation.newNone
  [{ name := "m", content := .ok [("C", .cls none
    [("create", .described .static nothing), ("load", .described .static nothing)])] }]

/-- The class, with a method that writes. -/
def blankParams (writeMethod : String) : StateParams :=
  { moduleName := "m", className := "C", writeMethod }

/-- A state of the class that was made with one method and has loaded the other. -/
def blank (made loaded : String) : ObjectState :=
  ⟨⟨blankParams loaded, some (.ofHandle (.of 0) "m.C")⟩, made ≠ ""⟩

/-- A host makes a state of the class. -/
def makeBlank (made : String) : Except Panic (Except StateError ObjectState) × Host :=
  (Creator.createObject (some (blankParams made)) []).run
    { surroundings := { library := blankLibrary } }

/-- The state that was made loads what was saved of another. -/
def loadBlank (made loaded : String) :
    Except Panic (StateObject × Except StateError Unit × Source) × Host :=
  ((blank made made).object.load ⟨Container.written (blankParams loaded) [], none⟩ []).run
    (makeBlank made).2

theorem reaches_blank {made loaded : String}
    (run : (loadBlank made loaded).1 = .ok ((blank made loaded).object, .ok (), ⟨[], none⟩)) :
    Reaches (blank made made) [.load ⟨Container.written (blankParams loaded) [], none⟩ []]
      (blank made loaded) :=
  .step .start (step_load (Prod.ext run rfl))

/-- A state that was made to be read only loads a container that names a method.  Then it names one
and refuses to be written to. -/
theorem settled_readOnly :
    Settled (blank "" "") [.load ⟨Container.written (blankParams "write") [], none⟩ []]
        (blank "" "write") ∧
      (blank "" "write").isWritable = false ∧
      (blank "" "write").object.params.writeMethod = "write" := by
  have made : (makeBlank "").1 = .ok (.ok (blank "" "")) := by decide +kernel
  have loaded : (loadBlank "" "write").1 = .ok ((blank "" "write").object, .ok (), ⟨[], none⟩) := by
    decide +kernel
  exact ⟨settled (.created (Prod.ext made rfl)) (reaches_blank loaded), rfl, rfl⟩

/-- A state that was made with a method that writes loads a container that names none.  It can be
written to as before, no write is refused, and all go to the method whose name is empty. -/
theorem isWritable_emptyMethod :
    (makeBlank "write").1 = .ok (.ok (blank "write" "write")) ∧
      (loadBlank "write" "").1 = .ok ((blank "write" "").object, .ok (), ⟨[], none⟩) ∧
      ¬ ((blank "write" "").isWritable = true ↔
        (blank "write" "").object.params.writeMethod ≠ "") ∧
      (∀ v h left h', ((SharedState.object (blank "write" "")).write v).run h ≠
        (.ok (left, .error .notWritable), h')) ∧
      ∀ v, (SharedState.object (blank "write" "")).write v = do
        let result ← (blank "write" "").object.call "" [v]
        return (.object (blank "write" ""), result.map fun _ => ()) := by
  have writable : (blank "write" "").isWritable = true := by decide +kernel
  refine ⟨by decide +kernel, by decide +kernel, by decide +kernel, ?_, write_eq_call writable⟩
  intro v h left h' run
  have refused := write_eq_notWritable_iff.1 ⟨left, h', run⟩
  rw [writable] at refused
  cases refused

end ObjectState

end InterpreterHost
