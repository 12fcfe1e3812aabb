import InterpreterHost.Call.Registry
import InterpreterHost.Proofs.State.Replacement
import InterpreterHost.State.Model

/-!
# Functions and states inside a job

A job that uses a function, a state or a model gets an error where it would have to wait for another job, and nothing
is changed but what was done before that.

## Main definitions

* `Host.Refuses` — what a job gets for what it uses

## Main statements

* `Host.refuses` — on every host on which calls can be made
-/

namespace InterpreterHost

open InterpreterHost.Action

variable {h : Host} {r : Ref} {origin : String}

/-! ## Functions -/

/-- A call of an object inside a job is refused. -/
theorem Action.run_callOn_inside {α : Type} (ready : h.Ready) (inside : h.insideJob = true) (released name : String)
    (code : Ref → Call α) : (callOn (.of r) released name code).run h = (.ok (.error (.broker .reentrant)), h) :=
  run_runCall_inside ready inside name _

namespace NamedFunction

/-- The module is there, or is refused. -/
theorem run_loaded_inside (ready : h.Ready) (inside : h.insideJob = true) (f : NamedFunction) :
    f.loaded.run h = (.ok (f, f.module.elim (.error (.broker .reentrant)) .ok), h) := by
  cases module : f.module with
  | some m =>
    unfold loaded
    rw [module]
    rfl
  | none =>
    have refused : f.importModule.run h = (.ok (.error (.broker .reentrant)), h) := by
      unfold importModule
      split
      · exact run_runCall_inside ready inside _ _
      · exact run_bind_of_ok (run_appendSearchPath_inside ready inside _)
    unfold loaded
    rw [module]
    exact run_bind_of_ok refused

theorem run_call_inside (ready : h.Ready) (inside : h.insideJob = true) (f : NamedFunction) (args : List Value)
    (held : ∀ m, f.module = some m → ∃ r, m.handle = .of r) :
    (f.call args).run h = (.ok (f, .error (.broker .reentrant)), h) := by
  unfold call
  rw [run_bind_of_ok (run_loaded_inside ready inside f)]
  cases module : f.module with
  | none => rfl
  | some m =>
    obtain ⟨r, handle⟩ := held m module
    have refused : (m.call f.functionName args).run h = (.ok (.error (.broker .reentrant)), h) := by
      unfold Module.call
      rw [handle]
      exact run_callOn_inside ready inside _ _ _
    exact run_bind_of_ok refused

end NamedFunction

/-! ## States -/

theorem Instance.run_call_inside (ready : h.Ready) (inside : h.insideJob = true) (method : String)
    (args : List Value) :
    (Instance.call ⟨origin, .of r⟩ method args).run h = (.ok (.error (.broker .reentrant)), h) := by
  unfold Instance.call Instance.invoke
  exact run_callOn_inside ready inside _ _ _

namespace StateObject

variable {s : StateObject}

theorem run_call_inside (ready : h.Ready) (inside : h.insideJob = true) (live : s.object = some ⟨origin, .of r⟩)
    (method : String) (args : List Value) :
    (s.call method args).run h = (.ok (.error (.call (.broker .reentrant))), h) := by
  unfold call withObject
  rw [live]
  exact run_bind_of_ok (Instance.run_call_inside ready inside method args)

theorem run_write_inside (ready : h.Ready) (inside : h.insideJob = true) (live : s.object = some ⟨origin, .of r⟩)
    (v : Value) : (s.write v).run h = (.ok (.error (.call (.broker .reentrant))), h) :=
  run_bind_of_ok (run_call_inside ready inside live _ _)

/-- The header is written before saving is refused, and the temporary file is gone. -/
theorem run_save_inside (ready : h.Ready) (inside : h.insideJob = true) (live : s.object = some ⟨origin, .of r⟩)
    {sink sink' : Sink} (params : ValueMap) {path : String}
    (written : Container.write sink s.params = (.ok (), sink')) (found : h.temporaryPath = .ok path) :
    (s.save sink params).run h = (.ok (.error (.call (.broker .reentrant)), sink'),
      h.withFiles fun files => (files.insert path []).erase path) := by
  have ready' : (h.withFiles (·.insert path [])).Ready := .of_owner h _ ready
  unfold save
  rw [live]
  dsimp only
  rw [written]
  dsimp only
  unfold savePayload
  rw [run_bind_of_ok (TemporaryFile.run_create_ok ready found)]
  dsimp only
  rw [run_bind_of_ok (Instance.run_call_inside ready' inside _ _)]
  rfl

/-- The source is read before loading is refused, and the temporary file is gone. -/
theorem run_load_inside (ready : h.Ready) (inside : h.insideJob = true) {i : Instance} (live : s.object = some i)
    {source : Source} (params : ValueMap) {header : StateParams} {path : String} {payload : Octets}
    (hands : HandsOver source h header path payload) :
    (s.load source params).run h = (.ok (s, .error (.call (.broker .reentrant)), ⟨[], none⟩),
      h.withFiles fun files => ((files.insert path []).insert path payload).erase path) := by
  obtain ⟨read, found, room⟩ := hands
  have made : (make loadMethod header [.string path, .map params]).run (holding h path payload) =
      (.ok (.error (.broker .reentrant)), holding h path payload) := make_inside (.of_owner h _ ready) inside
  have there : (holding h path payload).owner.interpreter.files.find? path = some payload := by
    simp [holding, Host.withFiles, Entries.find?_insert]
  have removed : (TemporaryFile.remove path).run (holding h path payload) =
      (.ok (), h.withFiles fun files => ((files.insert path []).insert path payload).erase path) := by
    have content : (TemporaryFile.content? path).run (holding h path payload) =
        (.ok (some payload), holding h path payload) := by
      rw [← there]
      rfl
    unfold TemporaryFile.remove
    rw [run_bind_of_ok content]
    rfl
  have handed : (handOver header path params).run (holding h path payload) =
      (.ok (.error (.call (.broker .reentrant)), ⟨[], none⟩),
        h.withFiles fun files => ((files.insert path []).insert path payload).erase path) := by
    unfold handOver
    rw [run_bind_of_ok made, run_bind_of_ok removed]
    rfl
  have refused := (restore_of_read read (TemporaryFile.run_create_ok ready found) room).trans handed
  unfold load
  rw [live]
  dsimp only
  rw [run_bind_of_ok refused]
  rfl

end StateObject

/-! ## Models -/

namespace Model

variable {m : Model}

theorem run_call_inside (ready : h.Ready) (inside : h.insideJob = true) (live : m.object = some ⟨origin, .of r⟩)
    (method : String) (args : List Value) :
    (m.call method args).run h = (.ok (.error (.call (.broker .reentrant))), h) := by
  unfold call
  rw [live]
  exact run_bind_of_ok (Instance.run_call_inside ready inside method args)

/-- A row that makes no batch full is collected, for that no job is waited for.  With the one that does the rows of
the batch are gone. -/
theorem run_write_inside (ready : h.Ready) (inside : h.insideJob = true) (live : m.object = some ⟨origin, .of r⟩)
    (row : Value) : (m.write row).run h =
      (.ok (if m.rows.length + 1 < m.params.batchSize then ({ m with rows := m.rows ++ [row] }, .ok none)
        else ({ m with rows := [] }, .error (.call (.broker .reentrant)))), h) := by
  have there : m.isTerminated = false := by rw [isTerminated, live]; rfl
  unfold write
  rw [there, if_neg Bool.false_ne_true]
  dsimp only
  rw [List.length_append, List.length_singleton]
  split
  · rfl
  · exact run_bind_of_ok (run_call_inside ready inside live _ _)

end Model

/-! ## All of them -/

/-- What a job gets for what it uses, where that is there. -/
structure Host.Refuses (h : Host) : Prop where
  function : ∀ (f : NamedFunction) args, (∀ m, f.module = some m → ∃ r, m.handle = .of r) →
    (f.call args).run h = (.ok (f, .error (.broker .reentrant)), h)
  call : ∀ (s : StateObject) origin r method args, s.object = some ⟨origin, .of r⟩ →
    (s.call method args).run h = (.ok (.error (.call (.broker .reentrant))), h)
  write : ∀ (s : StateObject) origin r v, s.object = some ⟨origin, .of r⟩ →
    (s.write v).run h = (.ok (.error (.call (.broker .reentrant))), h)
  /-- The header is written before that. -/
  save : ∀ (s : StateObject) origin r sink sink' params path, s.object = some ⟨origin, .of r⟩ →
    Container.write sink s.params = (.ok (), sink') → h.temporaryPath = .ok path →
    (s.save sink params).run h = (.ok (.error (.call (.broker .reentrant)), sink'),
      h.withFiles fun files => (files.insert path []).erase path)
  /-- The source is read before that. -/
  load : ∀ (s : StateObject) i source params header path payload, s.object = some i →
    StateObject.HandsOver source h header path payload →
    (s.load source params).run h = (.ok (s, .error (.call (.broker .reentrant)), ⟨[], none⟩),
      h.withFiles fun files => ((files.insert path []).insert path payload).erase path)
  /-- A row that makes no batch full is collected, since no job is waited for.  With one that does the rows are
  gone. -/
  row : ∀ (m : Model) origin r row, m.object = some ⟨origin, .of r⟩ → (m.write row).run h =
    (.ok (if m.rows.length + 1 < m.params.batchSize then ({ m with rows := m.rows ++ [row] }, .ok none)
      else ({ m with rows := [] }, .error (.call (.broker .reentrant)))), h)

theorem Host.refuses (ready : h.Ready) (inside : h.insideJob = true) : h.Refuses where
  function f args held := f.run_call_inside ready inside args held
  call _ _ _ method args live := StateObject.run_call_inside ready inside live method args
  write _ _ _ v live := StateObject.run_write_inside ready inside live v
  save _ _ _ _ _ params _ live written found := StateObject.run_save_inside ready inside live params written found
  load _ _ _ params _ _ _ live hands := StateObject.run_load_inside ready inside live params hands
  row _ _ _ row live := Model.run_write_inside ready inside live row

end InterpreterHost
