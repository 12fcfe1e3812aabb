import InterpreterHost.Proofs.Call.Parts
import InterpreterHost.Proofs.Handle.Outcome
import InterpreterHost.Proofs.Host.Starting

/-!
# Calls on a host that rests

Once the session has started and as long as nothing else is under way, a call is its job and nothing more: the
host hands it over, runs it at once and rests again.  This file has the equations for calls and for the start of
the session.

## Main definitions

* `Host.Rests` — the session has started, no job is under way and no task is in line
* `Call.answer` — what a call answers

## Main statements

* `Action.run_runCall_of_running`, `Action.run_runCall` — a call comes to what its job comes to
* `Action.rests_of_startSession` — the host rests once the session has started, and the heap is untouched
* `Module.run_load` — a module is imported as the library has it
* `Handle.run_dropping` — letting go of a handle afterwards does not change what came of the code
-/

namespace InterpreterHost

/-! ## Hosts -/

/-- The session has started, no job is under way and no task is in line. -/
structure Host.Rests (h : Host) : Prop where
  configured : h.config.isSome = true
  running : h.broker.stage = .running
  outside : h.insideJob = false
  quiet : h.broker.queue = []

theorem Broker.drain_of_quiet {b : Broker} (quiet : b.queue = []) (o : Owner) : b.drain o = (b, o) := by
  unfold Broker.drain
  split
  · rfl
  · next queued =>
    rw [quiet] at queued
    cases queued

/-- The task in line runs, and nothing else. -/
theorem Broker.drain_of_one {b : Broker} {work : Job Unit} {o o' : Owner} (one : b.queue = [.of work])
    (ran : work.run o = (.ok (), o')) : (b.drain o).2 = o' := by
  unfold Broker.drain
  split
  · next empty =>
    rw [one] at empty
    cases empty
  · next t rest queued =>
    rw [one] at queued
    cases queued
    have after : ({ b with queue := [] } : Broker).run (.of work) o =
        (({ b with queue := [] } : Broker).finish false, o') := by
      unfold Broker.run
      rw [show (Task.of work).work = work from rfl, ran]
      rfl
    dsimp only
    rw [after, Broker.drain_of_quiet rfl]

theorem Host.Rests.ready {h : Host} (rests : h.Rests) : h.Ready := ⟨rests.configured, by simp [rests.running]⟩

theorem Host.Rests.ownerAfterTasks {h : Host} (rests : h.Rests) : h.ownerAfterTasks = h.owner :=
  congrArg Prod.snd (Broker.drain_of_quiet (b := { h.broker with submitted := h.broker.submitted + 1 }) rests.quiet h.owner)

/-- What a call answers: what its job gives, or its panic. -/
def Call.answer {α : Type} (name : String) : Except Panic (Except CallError α) → Except CallError α
  | .ok result => result
  | .error p => .error (.panic name p.message)

namespace Action

variable {α : Type} {h : Host}

/-- A call comes to what its job comes to after the tasks in line, and the host rests then. -/
theorem run_runCall_of_running (ready : h.Ready) (outside : h.insideJob = false)
    (running : h.broker.stage = .running) (name : String) (code : Job (Except CallError α)) :
    ∃ h', (runCall name code).run h = (.ok (Call.answer name (code.run h.ownerAfterTasks).1), h') ∧
      h'.owner = (code.run h.ownerAfterTasks).2 ∧ h'.Rests := by
  obtain ⟨h', executed, owner, rests⟩ : ∃ h', (execSync (job code)).run h =
        (.ok (Turn.answer (code.run h.ownerAfterTasks).1), h') ∧
      h'.owner = (code.run h.ownerAfterTasks).2 ∧ h'.Rests := by
    refine ⟨_, run_execSync_job outside (Process.accept_of_running running) code, rfl, ready.configured, ?_, outside,
      ?_⟩
    · exact (Broker.stage_drain _ h.owner).trans running
    · exact Process.queue_drain _ h.owner
  refine ⟨h', ?_, owner, rests⟩
  unfold runCall
  rw [run_bind_of_ok (ensure_of_ready ready), run_bind_of_ok executed]
  cases (code.run h.ownerAfterTasks).1 <;> rfl

/-- A call comes to what its job comes to. -/
theorem run_runCall (rests : h.Rests) (name : String) {code : Job (Except CallError α)}
    {result : Except CallError α} {o : Owner} (run : code.run h.owner = (.ok result, o)) :
    ∃ h', (runCall name code).run h = (.ok result, h') ∧ h'.owner = o ∧ h'.Rests := by
  have called := run_runCall_of_running rests.ready rests.outside rests.running name code
  rwa [rests.ownerAfterTasks, run] at called

end Action

/-- A module is imported as the library has it. -/
theorem Module.run_load {h : Host} (rests : h.Rests) {name : String} {m : Ref} {i : Interpreter}
    (imported : (h.owner.library.importModule name).run h.owner.interpreter = (.ok m, i)) :
    ∃ h', (load name).run h = (.ok (.ok ⟨name, .of m⟩), h') ∧ h'.owner = { h.owner with interpreter := i } ∧
      h'.Rests := by
  refine Action.run_runCall rests name (run_run_bind_of_ok (Call.run_during _ _ _ ?_))
  unfold Job.importModule
  rw [Job.run_get_bind]
  exact Job.run_checked imported

/-- Letting go of a handle afterwards does not change what came of the code: the reference is given up when the
owning thread comes to it. -/
theorem Handle.run_dropping {ε α : Type} {h h' : Host} {code : ExceptT ε Action α} {result : Except ε α}
    (run : code.run.run h = (.ok result, h')) (rests : h'.Rests) (r : Ref) :
    ∃ h'', ((Handle.of r).dropping code).run.run h = (.ok result, h'') ∧ h''.broker.stage = .running ∧
      h''.insideJob = false ∧ h''.ownerAfterTasks = h'.owner.without [r] := by
  obtain ⟨h'', dropped, running, outside, owner⟩ : ∃ h'', (of r).drop.run h' = (.ok (), h'') ∧
      h''.broker.stage = .running ∧ h''.insideJob = false ∧ h''.ownerAfterTasks = h'.owner.without [r] := by
    refine ⟨_, run_drop rests.outside rests.running r, rests.running, rests.outside, ?_⟩
    exact Broker.drain_of_one (congrArg (· ++ [_]) rests.quiet) (Job.run_releaseAll [r] h'.owner)
  refine ⟨h'', ?_, running, outside, owner⟩
  have unfolded : ((Handle.of r).dropping code).run.run h =
      (tryCatch code.run (fun p => do
        (Handle.of r).drop
        throw p) >>= fun result => do
          (Handle.of r).drop
          return result : Action (Except ε α)).run h := rfl
  rw [unfolded, run_bind, run_tryCatch, run]
  dsimp only
  rw [run_bind, dropped]
  rfl

/-! ## The start of the session -/

/-- Nothing is pending, and the library and the heap are those that are given. -/
structure Owner.Fresh (library : Library) (heap : Heap) (o : Owner) : Prop where
  library : o.library = library
  heap : o.interpreter.heap = heap
  calm : o.pending = none

theorem Owner.settlesLookUps_fresh (library : Library) (heap : Heap) :
    Owner.SettlesLookUps (Owner.Fresh library heap) := by
  intro o o' step fresh
  cases step with
  | clearPending => exact { fresh with calm := rfl }
  | _ => exact { fresh with }

namespace Job

theorem maintains_startUp_fresh (library : Library) (heap : Heap) (paths : List String) :
    Maintains (Owner.Fresh library heap) (startUp paths prepareHook) := by
  have hook : Maintains (Owner.Fresh library heap) prepareHook :=
    .bind (maintains_prepare (Owner.settlesLookUps_fresh library heap)) fun _ => .pure _
  refine .bind (fun o fresh => ?_) fun result => ?_
  · rw [run_appendSearchPath]
    exact { fresh with }
  · cases result with
    | error e => exact .pure _
    | ok =>
      refine .bind (.tryCatch hook fun _ => .pure _) fun prepared => ?_
      cases prepared <;> exact .pure _

end Job

namespace Action

variable {h h' : Host}

/-- What the first thing that the owning thread does keeps of a new owner holds once the thread has started. -/
theorem owner_of_start {I : Owner → Prop} {config : InterpreterConfig} {hook : StartupHook}
    (maintains : Job.Maintains I (Job.startUp config.searchPaths hook))
    (fresh : I (freshInterpreter.run h).2.owner) (run : (start config hook).run h = (.ok (.ok ()), h')) :
    I h'.owner ∧ h'.broker.stage = .running := by
  rw [run_start] at run
  split at run
  · cases run
  · split at run
    · cases run
    · cases run
    · cases run
    · unfold startOwner at run
      obtain ⟨_, h₁, renewed, run⟩ := of_run_bind run
      rw [renewed] at fresh
      obtain ⟨prepared, h₂, ran, run⟩ := of_run_bind run
      have kept := maintains h₁.owner fresh
      rw [run_job] at ran
      cases prepared with
      | error e => cases run
      | ok =>
        cases run
        have owner := congrArg (fun ended => ended.2.owner) ran
        exact ⟨owner ▸ kept, rfl⟩

/-- The session starts in a process in which nothing was started: the host rests, and the heap is as it was
given. -/
theorem rests_of_startSession {s : Surroundings} {config : Config}
    (run : (startSession config).run { surroundings := s } = (.ok (.ok ()), h)) :
    h.Rests ∧ h.owner.Fresh s.library s.interpreter.heap := by
  unfold startSession at run
  rw [run_get_bind, if_neg (by simp)] at run
  obtain ⟨result, h₁, started, run⟩ := of_run_bind run
  cases result with
  | error e => cases run
  | ok =>
    cases run
    unfold startWith at started
    rw [run_get_bind, if_pos rfl] at started
    have still := (keeps_start (I := fun h => h.insideJob = false ∧ h.broker.queue = [])
      (fun _ _ _ _ _ holds => holds) config.interpreter Job.prepareHook { surroundings := s } ⟨rfl, rfl⟩).1
    rw [started] at still
    obtain ⟨fresh, running⟩ := owner_of_start
      (Job.maintains_startUp_fresh s.library s.interpreter.heap config.interpreter.searchPaths) ⟨rfl, rfl, rfl⟩ started
    exact ⟨⟨rfl, running, still.1, still.2⟩, fresh⟩

end Action

end InterpreterHost
