import Mathlib.Logic.Relation
import InterpreterHost.Proofs.Host.Starting

/-!
# The life of the owning thread

The owning thread starts once, runs and ends.  This file says what an attempt to start it comes to, and
what each call is answered before the start, while the thread runs and after its end, whatever calls came
before.

## Main definitions

* `Host.ownerAtHook` — what the hook finds
* `Host.Attempt` — what an attempt to start comes to
* `Host.Accepts` — the attempts that succeed
* `Host.Advance`, `Host.Life` — calls of threads and tasks that the owning thread runs, one after the other
* `Host.starts` — how often the owning thread has started
* `Host.Idle`, `Host.Serving`, `Host.Over` — what is answered before the start, until the end and after it

## Main statements

* `Host.attempt_start` — what starting comes to
* `Host.Attempt.succeeds_iff` — it succeeds unless there is a reason, and attempts that failed are none
* `Host.Advance.onward`, `Host.Life.host_settled` — what a call keeps, and what a life keeps
* `Host.Life.forward` — the life of the owning thread only moves forward

## Design notes

To read the counters is no step: they are fields of the broker.  A job that someone waits for may itself do
all that code can do in a job, which to the broker is to hand over tasks.

A process that the system has killed calls nothing more.  Nothing that is said here depends on that, so it is no
condition of a step.
-/

namespace InterpreterHost

/-! ## Attempts to start -/

namespace Host

/-- What the hook finds: a new interpreter, the search path of which has got directories. -/
def ownerAtHook (h : Host) (paths : List String) : Owner where
  library := h.surroundings.library
  interpreter := { h.surroundings.interpreter with
    searchPath := (h.surroundings.interpreter.searchPath.append paths).1 }
  log := h.owner.log
  panicOnWarning := h.owner.panicOnWarning

/-- Why the search path of a new interpreter does not get all of the directories, if it does not. -/
def pathRefusal (h : Host) (paths : List String) : Option String :=
  (h.surroundings.interpreter.searchPath.append paths).2

/-- There will be a thread, and a new interpreter on it. -/
structure Clear (h : Host) (config : InterpreterConfig) : Prop where
  name : config.threadName.toList.contains '\x00' = false
  stack : h.surroundings.stackFate config.stackSize = .holds
  alone : h.hasForeignInterpreter = false

end Host

/-- What is told of a hook that has ended. -/
def StartupHook.verdict : Except Panic (Except String Unit) → Except BrokerError Unit
  | .ok (.ok ()) => .ok ()
  | .ok (.error reason) => .error (.initFailed reason)
  | .error p => .error (.initFailed p.message)

/-- What an attempt to start the owning thread comes to: what is replied, and the host afterwards.  The hook
runs once if the directories were added, and else not at all. -/
inductive Host.Attempt (h : Host) (config : InterpreterConfig) (hook : StartupHook) :
    Except Panic (Except BrokerError Unit) → Host → Prop
  | unnameable (name : config.threadName.toList.contains '\x00' = true) :
      Attempt h config hook (.error (namePanic config.threadName)) h
  | unspawned {reason : String} (name : config.threadName.toList.contains '\x00' = false)
      (stack : h.surroundings.stackFate config.stackSize = .refused reason) :
      Attempt h config hook (.ok (.error (.spawn reason))) h
  | overrun (name : config.threadName.toList.contains '\x00' = false)
      (stack : h.surroundings.stackFate config.stackSize = .overflows) (alone : h.hasForeignInterpreter = false) :
      Attempt h config hook (.error (overflowPanic config.threadName)) { h with isKilled := true }
  | foreign (foreign : h.hasForeignInterpreter = true) : Attempt h config hook (.ok (.error .alreadyInitialized)) h
  | unsearchable {reason : String} (clear : h.Clear config) (paths : h.pathRefusal config.searchPaths = some reason) :
      Attempt h config hook (.ok (.error (.searchPath reason)))
        { h with owner := h.ownerAtHook config.searchPaths }
  | unprepared {e : BrokerError} {o : Owner} {outcome : Except Panic (Except String Unit)} (clear : h.Clear config)
      (paths : h.pathRefusal config.searchPaths = none)
      (ran : hook.run (h.ownerAtHook config.searchPaths) = (outcome, o))
      (failed : StartupHook.verdict outcome = .error e) :
      Attempt h config hook (.ok (.error e)) { h with owner := o }
  | started {o : Owner} (clear : h.Clear config) (paths : h.pathRefusal config.searchPaths = none)
      (ran : hook.run (h.ownerAtHook config.searchPaths) = (.ok (.ok ()), o)) :
      Attempt h config hook (.ok (.ok ())) { h with
        owner := o
        broker := { h.broker with stage := .running }
        threadName := config.threadName }

/-- Nothing speaks against starting the owning thread with the configuration and the hook. -/
structure Host.Accepts (h : Host) (config : InterpreterConfig) (hook : StartupHook) : Prop where
  clear : h.Clear config
  paths : h.pathRefusal config.searchPaths = none
  hook : (hook.run (h.ownerAtHook config.searchPaths)).1 = .ok (.ok ())

/-- The first thing that the owning thread does: it adds the directories, and if they were all added it runs
the hook. -/
theorem Job.run_startUp (paths : List String) (hook : StartupHook) (o : Owner) :
    (startUp paths hook).run o =
      let o₁ := { o with interpreter :=
        { o.interpreter with searchPath := (o.interpreter.searchPath.append paths).1 } }
      match (o.interpreter.searchPath.append paths).2 with
      | some reason => (.ok (.error (.searchPath reason)), o₁)
      | none => (.ok (StartupHook.verdict (hook.run o₁).1), (hook.run o₁).2) := by
  unfold startUp
  rw [run_bind, run_appendSearchPath]
  cases (o.interpreter.searchPath.append paths).2 with
  | some reason => rfl
  | none =>
    dsimp only
    rw [run_bind, run_tryCatch]
    generalize ExceptT.run hook _ = ran
    rcases ran with ⟨p | reason | ⟨⟩, o'⟩ <;> rfl

namespace Host

variable {h h' : Host} {config : InterpreterConfig} {hook : StartupHook}
  {reply : Except Panic (Except BrokerError Unit)}

/-- The owner of an interpreter that is new. -/
def newOwner (h : Host) : Owner where
  library := h.surroundings.library
  interpreter := h.surroundings.interpreter
  log := h.owner.log
  panicOnWarning := h.owner.panicOnWarning

theorem run_startUp_newOwner (h : Host) (paths : List String) (hook : StartupHook) :
    (Job.startUp paths hook).run h.newOwner = match h.pathRefusal paths with
      | some reason => (.ok (.error (.searchPath reason)), h.ownerAtHook paths)
      | none => (.ok (StartupHook.verdict (hook.run (h.ownerAtHook paths)).1),
          (hook.run (h.ownerAtHook paths)).2) :=
  Job.run_startUp paths hook h.newOwner

/-- With a thread and a new interpreter on it, starting comes to what the first thing comes to that it does. -/
theorem run_start_of_clear (clear : h.Clear config) (hook : StartupHook) :
    (Action.start config hook).run h = match h.pathRefusal config.searchPaths with
      | some reason => (.ok (.error (.searchPath reason)), { h with owner := h.ownerAtHook config.searchPaths })
      | none => match hook.run (h.ownerAtHook config.searchPaths) with
        | (.ok (.ok ()), o) => (.ok (.ok ()), { h with
            owner := o
            broker := { h.broker with stage := .running }
            threadName := config.threadName })
        | (outcome, o) => (.ok (StartupHook.verdict outcome), { h with owner := o }) := by
  have fresh : Action.freshInterpreter.run h = (.ok (), { h with owner := h.newOwner }) := rfl
  have begun : (Action.start config hook).run h = (Action.startOwner config hook).run h := by
    rw [Action.run_start, clear.name, if_neg Bool.false_ne_true, clear.stack, clear.alone]
  rw [begun]
  unfold Action.startOwner
  rw [Action.run_bind_of_ok fresh, run_bind, Action.run_job]
  dsimp only
  rw [run_startUp_newOwner]
  cases h.pathRefusal config.searchPaths with
  | some reason => rfl
  | none => rcases hook.run (h.ownerAtHook config.searchPaths) with ⟨p | reason | ⟨⟩, o⟩ <;> rfl

/-- What starting the owning thread comes to. -/
theorem attempt_start (h : Host) (config : InterpreterConfig) (hook : StartupHook) :
    h.Attempt config hook ((Action.start config hook).run h).1 ((Action.start config hook).run h).2 := by
  by_cases clear : h.Clear config
  · rw [run_start_of_clear clear]
    cases paths : h.pathRefusal config.searchPaths with
    | some reason => exact .unsearchable clear paths
    | none =>
      rcases ran : hook.run (h.ownerAtHook config.searchPaths) with ⟨p | reason | ⟨⟩, o⟩
      · exact .unprepared clear paths ran rfl
      · exact .unprepared clear paths ran rfl
      · exact .started clear paths ran
  · rw [Action.run_start]
    cases name : config.threadName.toList.contains '\x00' with
    | true => exact .unnameable name
    | false =>
      rw [if_neg Bool.false_ne_true]
      split
      · next stack => exact .unspawned name stack
      · next foreign _ => exact .foreign foreign
      · next stack alone => exact .overrun name stack alone
      · next stack alone => exact absurd ⟨name, stack, alone⟩ clear

/-- An attempt that does not come to the hook comes to the same with every hook. -/
theorem exists_run_start (h : Host) (config : InterpreterConfig)
    (unreached : ¬ (h.Clear config ∧ h.pathRefusal config.searchPaths = none)) :
    ∃ reply h', ∀ hook, (Action.start config hook).run h = (reply, h') := by
  by_cases clear : h.Clear config
  · cases paths : h.pathRefusal config.searchPaths with
    | none => exact absurd ⟨clear, paths⟩ unreached
    | some reason =>
      refine ⟨.ok (.error (.searchPath reason)), { h with owner := h.ownerAtHook config.searchPaths },
        fun hook => ?_⟩
      rw [run_start_of_clear clear, paths]
  · refine ⟨((Action.start config Action.noHook).run h).1, ((Action.start config Action.noHook).run h).2,
      fun hook => ?_⟩
    rw [Action.run_start, Action.run_start]
    cases name : config.threadName.toList.contains '\x00' with
    | true => rfl
    | false =>
      rw [if_neg Bool.false_ne_true]
      split
      · rfl
      · rfl
      · rfl
      · next stack alone => exact absurd ⟨name, stack, alone⟩ clear

namespace Attempt

/-- An attempt succeeds unless there is a reason against it. -/
theorem succeeds_iff (attempt : h.Attempt config hook reply h') :
    reply = .ok (.ok ()) ↔ h.Accepts config hook := by
  refine ⟨fun succeeded => ?_, fun accepts => ?_⟩
  · cases attempt with
    | started clear paths ran => exact ⟨clear, paths, by rw [ran]⟩
    | _ => cases succeeded
  · cases attempt with
    | unnameable name => exact nomatch accepts.clear.name.symm.trans name
    | unspawned name stack => exact nomatch accepts.clear.stack.symm.trans stack
    | overrun name stack => exact nomatch accepts.clear.stack.symm.trans stack
    | foreign foreign => exact absurd accepts.clear.alone (by simp [foreign])
    | unsearchable clear paths => exact absurd accepts.paths (by simp [paths])
    | unprepared clear paths ran failed =>
      have succeeded := accepts.hook
      rw [ran] at succeeded
      cases succeeded
      cases failed
    | started => rfl

/-- An attempt that has succeeded leaves an owning thread that has run nothing but the hook. -/
theorem of_succeeded (attempt : h.Attempt config hook (.ok (.ok ())) h') :
    h'.broker = { h.broker with stage := .running } ∧
      h'.owner = (hook.run (h.ownerAtHook config.searchPaths)).2 ∧ h'.insideJob = h.insideJob := by
  cases attempt with
  | started clear paths ran => exact ⟨rfl, by rw [ran], rfl⟩

/-- An attempt that has failed leaves the broker and what the process is given. -/
theorem of_failed (attempt : h.Attempt config hook reply h') (failed : reply ≠ .ok (.ok ())) :
    h'.broker = h.broker ∧ h'.insideJob = h.insideJob ∧ h'.surroundings = h.surroundings ∧
      h'.hasForeignInterpreter = h.hasForeignInterpreter := by
  cases attempt with
  | started => exact absurd rfl failed
  | _ => exact ⟨rfl, rfl, rfl, rfl⟩

/-- Once the directories were added, the hook runs once and nothing else does. -/
theorem owner_of_clear (attempt : h.Attempt config hook reply h') (clear : h.Clear config)
    (paths : h.pathRefusal config.searchPaths = none) :
    h'.owner = (hook.run (h.ownerAtHook config.searchPaths)).2 := by
  cases attempt with
  | unnameable name => exact nomatch clear.name.symm.trans name
  | unspawned name stack => exact nomatch clear.stack.symm.trans stack
  | overrun name stack => exact nomatch clear.stack.symm.trans stack
  | foreign foreign => exact absurd clear.alone (by simp [foreign])
  | unsearchable _ refused => exact absurd paths (by simp [refused])
  | unprepared _ _ ran | started _ _ ran => rw [ran]

end Attempt

theorem run_startWith_of_idle (idle : h.broker.stage = .idle) (config : InterpreterConfig) (hook : StartupHook) :
    (Action.startWith config hook).run h = (Action.start config hook).run h := by
  unfold Action.startWith
  rw [Action.run_get_bind, if_pos idle]

theorem run_terminate_of_idle (idle : h.broker.stage = .idle) : Action.terminate.run h = (.ok (.ok ()), h) := by
  unfold Action.terminate
  rw [Action.run_get_bind, if_pos idle]
  rfl

theorem run_isRunning (h : Host) : Action.isRunning.run h = (.ok (decide (h.broker.stage = .running)), h) := rfl

/-! ## Lives -/

/-- One call of a thread, or one task that the owning thread takes from the queue and runs. -/
inductive Advance (h : Host) : Host → Prop
  | startWith (config : InterpreterConfig) (hook : StartupHook) :
      Advance h ((Action.startWith config hook).run h).2
  | exec (t : Task) : Advance h ((Action.exec t).run h).2
  | execSync {α : Type} {code : Action α} (handsOver : Process.HandsOver code) :
      Advance h ((Action.execSync code).run h).2
  | isRunning : Advance h (Action.isRunning.run h).2
  | terminate : Advance h (Action.terminate.run h).2
  | serve : Advance h { h with
      broker := (h.broker.runNext h.owner).1
      owner := (h.broker.runNext h.owner).2 }

/-- Any calls from the moment that nothing has been started, with the hosts that they came by. -/
inductive Life : List Host → Host → Prop
  | start {h : Host} (broker : h.broker = {}) (outside : h.insideJob = false) : Life [] h
  | advance {past : List Host} {h h' : Host} (before : Life past h) (next : Advance h h') : Life (past ++ [h]) h'

/-- What is known of a host between calls: no job is under way, the broker is untouched before the start, and
no job is left after the end. -/
structure Settled (h : Host) : Prop where
  outside : h.insideJob = false
  untouched : h.broker.stage = .idle → h.broker = {}
  drained : h.broker.stage = .terminated → h.broker.queue = []

/-- The second host is settled and not behind the first; after the end it is the same. -/
structure Onward (h h' : Host) : Prop where
  settled : h'.Settled
  started : h.broker.stage ≠ .idle → h'.broker.stage ≠ .idle
  same : h.broker.stage = .terminated → h' = h

theorem terminated_of_closed (started : h.broker.stage ≠ .idle) (closed : h.broker.stage ≠ .running) :
    h.broker.stage = .terminated := by
  cases stage : h.broker.stage with
  | idle => exact absurd stage started
  | running => exact absurd stage closed
  | terminated => rfl

namespace Settled

theorem of_running (running : h.broker.stage = .running) (outside : h.insideJob = false) : h.Settled where
  outside := outside
  untouched idle := nomatch running.symm.trans idle
  drained closed := nomatch running.symm.trans closed

theorem of_terminated (closed : h.broker.stage = .terminated) (drained : h.broker.queue = [])
    (outside : h.insideJob = false) : h.Settled where
  outside := outside
  untouched idle := nomatch closed.symm.trans idle
  drained _ := drained

theorem onward_refl (settled : h.Settled) : h.Onward h := ⟨settled, id, fun _ => rfl⟩

/-- A host that has started goes on to one that runs jobs. -/
theorem onward_of_running (before : h.broker.stage = .running) (settled : h'.Settled)
    (started : h'.broker.stage ≠ .idle) : h.Onward h' :=
  ⟨settled, fun _ => started, fun closed => nomatch before.symm.trans closed⟩

/-- A host that is idle goes on to any that is settled. -/
theorem onward_of_idle (idle : h.broker.stage = .idle) (settled : h'.Settled) : h.Onward h' :=
  ⟨settled, fun started => absurd idle started, fun closed => nomatch idle.symm.trans closed⟩

theorem start (settled : h.Settled) (idle : h.broker.stage = .idle) (config : InterpreterConfig)
    (hook : StartupHook) : ((Action.start config hook).run h).2.Settled := by
  have attempt := h.attempt_start config hook
  by_cases succeeded : ((Action.start config hook).run h).1 = .ok (.ok ())
  · rw [succeeded] at attempt
    obtain ⟨broker, -, inside⟩ := attempt.of_succeeded
    exact .of_running (by rw [broker]) (inside.trans settled.outside)
  · obtain ⟨broker, inside, -, -⟩ := attempt.of_failed succeeded
    rw [settled.untouched idle] at broker
    exact ⟨inside.trans settled.outside, fun _ => broker, fun closed => by rw [broker]⟩

theorem startWith (settled : h.Settled) (config : InterpreterConfig) (hook : StartupHook) :
    h.Onward ((Action.startWith config hook).run h).2 := by
  by_cases idle : h.broker.stage = .idle
  · rw [run_startWith_of_idle idle]
    exact onward_of_idle idle (settled.start idle config hook)
  · rw [Action.run_startWith_of_started idle]
    exact settled.onward_refl

/-- Whatever needs the owning thread may start it. -/
theorem after_ensureStarted {α : Type} {next : Unit → Action α} (settled : h.Settled)
    (kept : ∀ h₁ : Host, h₁.Settled → h₁.broker.stage ≠ .idle →
      h₁.Onward ((Action.ensureStarted >>= next).run h₁).2) :
    h.Onward ((Action.ensureStarted >>= next).run h).2 := by
  by_cases idle : h.broker.stage = .idle
  · have settled₁ : (Action.ensureStarted.run h).2.Settled := by
      unfold Action.ensureStarted
      rw [Action.run_get_bind, if_pos idle, run_bind]
      have settled₁ := settled.start idle {} Action.noHook
      rcases run : (Action.start {} Action.noHook).run h with ⟨p | e | ⟨⟩, h₁⟩ <;> rwa [run] at settled₁
    refine onward_of_idle idle ?_
    rw [run_bind]
    rcases run : Action.ensureStarted.run h with ⟨p | ⟨⟩, h₁⟩
    · rwa [run] at settled₁
    · rw [run] at settled₁
      have started := Action.started_of_ensureStarted run
      have onward := kept h₁ settled₁ started
      rw [Action.run_bind_of_ok (Action.ensureStarted_of_started started)] at onward
      exact onward.settled
  · exact kept h settled idle

theorem exec (settled : h.Settled) (t : Task) : h.Onward ((Action.exec t).run h).2 := by
  refine settled.after_ensureStarted fun h₁ settled₁ started => ?_
  change h₁.Onward ((Action.exec t).run h₁).2
  rw [Process.run_exec started]
  have stage := Broker.stage_submitAll h₁.broker [t]
  by_cases running : h₁.broker.stage = .running
  · have running' := stage.trans running
    exact onward_of_running running (.of_running running' settled₁.outside)
      fun idle => nomatch running'.symm.trans idle
  · have refused : h₁.broker.submit t = .error .terminated := by
      rw [Broker.submit, Process.accept_of_not_running running]
      rfl
    rw [refused]
    exact settled₁.onward_refl

theorem execSync {α : Type} {code : Action α} (settled : h.Settled) (handsOver : Process.HandsOver code) :
    h.Onward ((Action.execSync code).run h).2 := by
  unfold Action.execSync
  rw [Action.run_get_bind, settled.outside, if_neg Bool.false_ne_true]
  refine settled.after_ensureStarted fun h₁ settled₁ started => ?_
  have whole : h₁.Onward ((Action.execSync code).run h₁).2 := by
    by_cases running : h₁.broker.stage = .running
    · rcases drained : ({ h₁.broker with submitted := h₁.broker.submitted + 1 } : Broker).drain h₁.owner
        with ⟨b, o⟩
      have stage := Broker.stage_drain { h₁.broker with submitted := h₁.broker.submitted + 1 } h₁.owner
      rw [drained] at stage
      replace stage : b.stage = .running := stage.trans running
      obtain ⟨-, tasks, handed⟩ :=
        handsOver { h₁ with broker := b, owner := o, insideJob := true } rfl (by simp [stage])
      rcases run : code.run { h₁ with broker := b, owner := o, insideJob := true } with ⟨outcome, h₂⟩
      rw [run] at handed
      rw [Process.run_execSync settled₁.outside running drained run]
      have running' : (h₂.broker.finish (Turn.isPanic outcome)).stage = .running := by
        rw [show h₂.broker = _ from handed]
        exact (Broker.stage_submitAll b tasks).trans stage
      exact onward_of_running running (.of_running running' rfl) (by simp [running'])
    · rw [Process.run_execSync_closed settled₁.outside started running]
      exact settled₁.onward_refl
  unfold Action.execSync at whole
  rwa [Action.run_get_bind, settled₁.outside, if_neg Bool.false_ne_true] at whole

theorem terminate (settled : h.Settled) : h.Onward (Action.terminate.run h).2 := by
  by_cases idle : h.broker.stage = .idle
  · rw [run_terminate_of_idle idle]
    exact settled.onward_refl
  by_cases running : h.broker.stage = .running
  · rw [Process.run_terminate settled.outside running]
    have closed : (h.broker.close.drain h.owner).1.stage = .terminated := Broker.stage_drain _ _
    refine onward_of_running running (.of_terminated closed (Process.queue_drain _ _) settled.outside) ?_
    simp [closed]
  · rw [Process.run_terminate_closed settled.outside (terminated_of_closed idle running)]
    exact settled.onward_refl

theorem serve (settled : h.Settled) : h.Onward { h with
    broker := (h.broker.runNext h.owner).1
    owner := (h.broker.runNext h.owner).2 } := by
  cases queue : h.broker.queue with
  | nil =>
    have nothing : h.broker.runNext h.owner = (h.broker, h.owner) := by
      unfold Broker.runNext
      rw [queue]
    rw [nothing]
    exact settled.onward_refl
  | cons t rest =>
    have running : h.broker.stage = .running := by
      cases stage : h.broker.stage with
      | running => rfl
      | idle => exact absurd queue (by simp [settled.untouched stage])
      | terminated => exact absurd queue (by simp [settled.drained stage])
    have stage : (h.broker.runNext h.owner).1.stage = .running := by
      unfold Broker.runNext
      rw [queue]
      exact (Broker.stage_run _ t h.owner).trans running
    exact onward_of_running running (.of_running stage settled.outside) (by simp [stage])

end Settled

/-- What a call keeps. -/
theorem Advance.onward (next : h.Advance h') (settled : h.Settled) : h.Onward h' := by
  cases next with
  | startWith config hook => exact settled.startWith config hook
  | exec t => exact settled.exec t
  | execSync handsOver => exact settled.execSync handsOver
  | isRunning => exact settled.onward_refl
  | terminate => exact settled.terminate
  | serve => exact settled.serve

/-- How often the owning thread has started in the course of hosts. -/
def starts : List Host → Nat
  | h :: h' :: rest =>
    (if h.broker.stage = .idle ∧ h'.broker.stage ≠ .idle then 1 else 0) + starts (h' :: rest)
  | _ => 0

theorem starts_append (before : List Host) (h h' : Host) :
    starts (before ++ [h, h']) =
      starts (before ++ [h]) + if h.broker.stage = .idle ∧ h'.broker.stage ≠ .idle then 1 else 0 := by
  induction before with
  | nil => simp [starts]
  | cons first before ih =>
    cases before with
    | nil => simp [starts]
    | cons second before =>
      simp only [List.cons_append, starts] at ih ⊢
      rw [ih, Nat.add_assoc]

namespace Life

variable {past : List Host}

theorem host_settled (life : Life past h) : h.Settled := by
  induction life with
  | start broker outside => exact ⟨outside, fun _ => broker, fun closed => by rw [broker]⟩
  | advance before next ih => exact (next.onward ih).settled

/-- The owning thread has started once if it is not idle. -/
theorem starts_eq (life : Life past h) : starts (past ++ [h]) = if h.broker.stage = .idle then 0 else 1 := by
  induction life with
  | start broker outside => simp [starts, broker]
  | @advance past h h' before next ih =>
    have started := (next.onward before.host_settled).started
    rw [List.append_assoc, List.singleton_append, starts_append, ih]
    by_cases idle : h.broker.stage = .idle
    · by_cases idle' : h'.broker.stage = .idle <;> simp [idle, idle']
    · simp [idle, started idle]

end Life

/-! ## What calls are answered -/

/-- The second host offers an attempt to start what the first does.  Only what is logged differs, and whether
the next warning panics. -/
structure OffersSame (h h' : Host) : Prop where
  clear : ∀ config, h'.Clear config ↔ h.Clear config
  paths : ∀ paths, h'.pathRefusal paths = h.pathRefusal paths
  owner : ∀ paths, h'.ownerAtHook paths = { h.ownerAtHook paths with
    log := h'.owner.log
    panicOnWarning := h'.owner.panicOnWarning }

/-- A host before the owning thread has started. -/
structure Idle (h : Host) : Prop where
  /-- No job was accepted, and none has run. -/
  broker : h.broker = {}
  isRunning : Action.isRunning.run h = (.ok false, h)
  /-- There is nothing to end. -/
  terminate : Action.terminate.run h = (.ok (.ok ()), h)
  /-- An attempt to start succeeds unless there is a reason against it. -/
  succeeds : ∀ config hook,
    ((Action.startWith config hook).run h).1 = .ok (.ok ()) ↔ h.Accepts config hook
  /-- After an attempt that has succeeded nothing but the hook has run on the owning thread. -/
  succeeded : ∀ config hook h', (Action.startWith config hook).run h = (.ok (.ok ()), h') →
    h'.broker = { stage := .running } ∧ h'.owner = (hook.run (h.ownerAtHook config.searchPaths)).2
  /-- An attempt that has failed leaves a host on which any attempt may still succeed. -/
  failed : ∀ config hook reply h', (Action.startWith config hook).run h = (reply, h') →
    reply ≠ .ok (.ok ()) → h'.broker = {} ∧ h.OffersSame h'
  /-- The hook runs once if the directories were added, -/
  hooked : ∀ config hook, h.Clear config → h.pathRefusal config.searchPaths = none →
    ((Action.startWith config hook).run h).2.owner = (hook.run (h.ownerAtHook config.searchPaths)).2
  /-- and else it does not run: all comes as it would with any other. -/
  unhooked : ∀ config, ¬ (h.Clear config ∧ h.pathRefusal config.searchPaths = none) →
    ∃ reply h', ∀ hook, (Action.startWith config hook).run h = (reply, h')

/-- A host on which the owning thread runs jobs. -/
structure Serving (h : Host) : Prop where
  isRunning : Action.isRunning.run h = (.ok true, h)
  startWith : ∀ config hook, (Action.startWith config hook).run h = (.ok (.error .alreadyStarted), h)
  /-- The owning thread ends when it has run all jobs. -/
  terminate : ∃ h', Action.terminate.run h = (.ok (.ok ()), h') ∧ h'.broker.stage = .terminated ∧
    h'.broker.queue = []

/-- A host on which the owning thread has ended. -/
structure Over (h : Host) : Prop where
  isRunning : Action.isRunning.run h = (.ok false, h)
  startWith : ∀ config hook, (Action.startWith config hook).run h = (.ok (.error .alreadyStarted), h)
  exec : ∀ t, (Action.exec t).run h = (.ok (.error .terminated), h)
  execSync : ∀ {α : Type} (code : Action α), (Action.execSync code).run h = (.ok (.error .terminated), h)
  terminate : Action.terminate.run h = (.ok (.ok ()), h)
  /-- Whatever is called from now on, no job runs and no counter changes. -/
  forever : ∀ h', Relation.ReflTransGen Advance h h' → h' = h

namespace Settled

theorem idle (settled : h.Settled) (idle : h.broker.stage = .idle) : h.Idle where
  broker := settled.untouched idle
  isRunning := by rw [run_isRunning, idle]; rfl
  terminate := run_terminate_of_idle idle
  succeeds config hook := by
    rw [run_startWith_of_idle idle]
    exact (h.attempt_start config hook).succeeds_iff
  succeeded config hook h' run := by
    rw [run_startWith_of_idle idle] at run
    have attempt := h.attempt_start config hook
    rw [run] at attempt
    obtain ⟨broker, owner, -⟩ := attempt.of_succeeded
    rw [settled.untouched idle] at broker
    exact ⟨broker, owner⟩
  failed config hook reply h' run failed := by
    rw [run_startWith_of_idle idle] at run
    have attempt := h.attempt_start config hook
    rw [run] at attempt
    obtain ⟨broker, -, surroundings, foreign⟩ := attempt.of_failed failed
    rw [settled.untouched idle] at broker
    refine ⟨broker, fun config => ?_, fun paths => ?_, fun paths => ?_⟩
    · exact ⟨fun clear => ⟨clear.name, surroundings ▸ clear.stack, foreign ▸ clear.alone⟩,
        fun clear => ⟨clear.name, surroundings ▸ clear.stack, foreign.trans clear.alone⟩⟩
    · rw [pathRefusal, surroundings, pathRefusal]
    · rw [ownerAtHook, surroundings, ownerAtHook]
  hooked config hook clear paths := by
    rw [run_startWith_of_idle idle]
    exact (h.attempt_start config hook).owner_of_clear clear paths
  unhooked config unreached := by
    obtain ⟨reply, h', run⟩ := h.exists_run_start config unreached
    exact ⟨reply, h', fun hook => (run_startWith_of_idle idle config hook).trans (run hook)⟩

theorem serving (settled : h.Settled) (running : h.broker.stage = .running) : h.Serving where
  isRunning := by rw [run_isRunning, running]; rfl
  startWith config hook := Action.run_startWith_of_started (by simp [running]) config hook
  terminate := ⟨_, Process.run_terminate settled.outside running, Broker.stage_drain _ _,
    Process.queue_drain _ _⟩

theorem ended (settled : h.Settled) (closed : h.broker.stage = .terminated) : h.Over where
  isRunning := by rw [run_isRunning, closed]; rfl
  startWith config hook := Action.run_startWith_of_started (by simp [closed]) config hook
  exec t := by
    rw [Process.run_exec (by simp [closed]), Broker.submit, Process.accept_of_not_running (by simp [closed])]
    rfl
  execSync code := Process.run_execSync_closed settled.outside (by simp [closed]) (by simp [closed])
  terminate := Process.run_terminate_closed settled.outside closed
  forever h' calls := by
    -- each call finds the host as it was at the end
    induction calls with
    | refl => rfl
    | tail before next same =>
      subst same
      exact (next.onward settled).same closed

end Settled

/-- What holds of a host after the hosts of the past. -/
structure Forward (past : List Host) (h : Host) : Prop where
  /-- The owning thread has started once at most. -/
  once : starts (past ++ [h]) = if h.broker.stage = .idle then 0 else 1
  idle : h.broker.stage = .idle → h.Idle
  serving : h.broker.stage = .running → h.Serving
  ended : h.broker.stage = .terminated → h.Over

/-- Whatever is called, the owning thread starts once at most, and it does not start again once it has
ended.  Attempts that fail leave no trace but in the log. -/
theorem Life.forward {past : List Host} (life : Life past h) : Forward past h where
  once := life.starts_eq
  idle := life.host_settled.idle
  serving := life.host_settled.serving
  ended := life.host_settled.ended

/-- A hook that notes that it runs, and fails if it is told to. -/
def notingHook (failure : Option String) : StartupHook := do
  Job.note "hook"
  match failure with
  | some reason => return .error reason
  | none => return .ok ()

/-- The hook fails, nothing is ended, the hook succeeds, two jobs run, the owning thread is ended, and a third
job is refused. -/
theorem Life.forward_retry : ∃ past h, Life past h ∧ Forward past h ∧ starts (past ++ [h]) = 1 ∧
    h.broker.stage = .terminated ∧ h.broker.submitted = 2 ∧ h.broker.completed = 2 ∧
    h.owner.notes 0 = ["hook", "hook", "task", "job"] := by
  have first : Life [{}] ((Action.startWith {} (notingHook (some "unavailable"))).run {}).2 :=
    .advance (.start rfl rfl) (.startWith _ _)
  have last := (((((first.advance .terminate).advance (.startWith {} (notingHook none))).advance
    (.exec (.of (Job.note "task")))).advance
    (.execSync (Process.handsOver_job (Job.note "job")))).advance .terminate).advance
    (.exec (.of (Job.note "late")))
  exact ⟨_, _, last, last.forward, by decide +kernel, by decide +kernel, by decide +kernel,
    by decide +kernel, by decide +kernel⟩

end Host

end InterpreterHost
