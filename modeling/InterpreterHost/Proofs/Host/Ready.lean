import InterpreterHost.Call.Module
import InterpreterHost.Proofs.Owner.Outcome

/-!
# Hosts that are ready

Once the session has started a call gives a result or an error and does not panic, and it leaves the
session started.  This file proves that for the calls and for what they are made of.

## Main definitions

* `Action.Keeps` — the action keeps an invariant of the host, and may panic or not
* `Host.Ready` — the session has started

## Main statements

* `Broker.stage_drain` — running tasks neither starts the broker nor ends it
* `Action.keeps_execSync`, `Action.keeps_runCall` — a job that someone waits for never panics, whatever
  runs in it
* `Action.ready_of_runCall` — a call that has a result leaves a host that is ready
-/

namespace InterpreterHost

/-! ## The stage of the broker -/

namespace Broker

theorem stage_of_accept {b b' : Broker} (accepted : b.accept = .ok b') :
    b.stage = .running ∧ b'.stage = .running := by
  unfold accept at accepted
  split at accepted
  · next running =>
    cases accepted
    exact ⟨running, running⟩
  · cases accepted

theorem stage_of_submit {b b' : Broker} {t : Task} (accepted : b.submit t = .ok b') :
    b'.stage = .running := by
  unfold submit at accepted
  rcases first : b.accept with e | b₁
  · rw [first] at accepted
    cases accepted
  · rw [first] at accepted
    cases accepted
    exact (stage_of_accept first).2

theorem stage_submitAll (b : Broker) (tasks : List Task) : (b.submitAll tasks).stage = b.stage := by
  induction tasks generalizing b with
  | nil => rfl
  | cons t tasks ih =>
    have one : ((b.submit t).toOption.getD b).stage = b.stage := by
      unfold submit accept
      split <;> rfl
    exact (ih _).trans one

theorem stage_run (b : Broker) (t : Task) (o : Owner) : (run b t o).1.stage = b.stage := by
  unfold run
  split <;> exact stage_submitAll b t.queued

/-- Running tasks neither starts the broker nor ends it. -/
theorem stage_drain (b : Broker) (o : Owner) : (b.drain o).1.stage = b.stage := by
  fun_induction drain b o with
  | case1 b o empty => rfl
  | case2 b o t rest queued after ih =>
    rw [ih]
    exact stage_run { b with queue := rest } t o

end Broker

namespace Action

variable {α β ε : Type} {I : Host → Prop} {panics : Prop}

theorem run_bind_of_ok {code : Action α} {next : α → Action β} {h h' : Host} {a : α}
    (run : code.run h = (.ok a, h')) : (code >>= next).run h = (next a).run h' := by
  rw [run_bind, run]

theorem run_get_bind (next : Host → Action α) (h : Host) : (get >>= next).run h = (next h).run h := rfl

/-- A job changes only what the owning thread has. -/
theorem run_job (code : Job α) (h : Host) :
    (job code).run h = ((code.run h.owner).1, { h with owner := (code.run h.owner).2 }) := by
  unfold job
  rw [run_get_bind]
  rcases code.run h.owner with ⟨result, owner⟩
  cases result <;> rfl

/-! ## Invariants of the host -/

/-- The action, started on a host of which `I` holds, leaves such a host, and does not panic unless
`panics` holds. -/
def Keeps (I : Host → Prop) (panics : Prop) (code : Action α) : Prop :=
  ∀ h, I h → I (code.run h).2 ∧ ∀ p, (code.run h).1 = .error p → panics

/-- An action that keeps an invariant and does not panic gives a result. -/
theorem Keeps.exists_run {code : Action α} (keeps : Keeps I False code) {h : Host} (holds : I h) :
    ∃ a h', code.run h = (.ok a, h') ∧ I h' := by
  obtain ⟨kept, never⟩ := keeps h holds
  rcases run : code.run h with ⟨p | a, h'⟩
  · rw [run] at never
    exact (never p rfl).elim
  · rw [run] at kept
    exact ⟨a, h', rfl, kept⟩

theorem keeps_pure (a : α) : Keeps I panics (pure a) := fun _ holds => ⟨holds, fun _ error => by cases error⟩

theorem keeps_throw (p : Panic) : Keeps I True (throw p : Action α) := fun _ holds => ⟨holds, fun _ _ => trivial⟩

theorem keeps_throw_bind (p : Panic) (next : α → Action β) : Keeps I True (throw p >>= next) :=
  fun _ holds => ⟨holds, fun _ _ => trivial⟩

theorem keeps_get : Keeps I panics get := fun _ holds => ⟨holds, fun _ error => by cases error⟩

theorem keeps_modify {f : Host → Host} (holds : ∀ h, I h → I (f h)) :
    Keeps I panics (modify f : Action PUnit) := fun h before => ⟨holds h before, fun _ error => by cases error⟩

theorem keeps_bind {code : Action α} {next : α → Action β} (first : Keeps I panics code)
    (second : ∀ a, Keeps I panics (next a)) : Keeps I panics (code >>= next) := by
  intro h holds
  obtain ⟨kept, panicked⟩ := first h holds
  rw [run_bind]
  rcases run : code.run h with ⟨p | a, h'⟩
  · rw [run] at kept panicked
    exact ⟨kept, fun _ _ => panicked p rfl⟩
  · rw [run] at kept
    exact second a h' kept

theorem keeps_tryCatch {code : Action α} {handler : Panic → Action α} (first : Keeps I True code)
    (second : ∀ p, Keeps I panics (handler p)) : Keeps I panics (tryCatch code handler) := by
  intro h holds
  obtain ⟨kept, -⟩ := first h holds
  rw [run_tryCatch]
  rcases run : code.run h with ⟨p | a, h'⟩
  · rw [run] at kept
    exact second p h' kept
  · rw [run] at kept
    exact ⟨kept, fun _ error => by cases error⟩

theorem keeps_job {code : Job α} (steady : ∀ h o, I h → I { h with owner := o })
    (quiet : ∀ o p, (code.run o).1 = .error p → panics) : Keeps I panics (job code) := by
  intro h holds
  rw [run_job]
  exact ⟨steady h _ holds, fun p => quiet h.owner p⟩

end Action

/-! ## Hosts that are ready -/

/-- The session has started: a configuration is in force and the owning thread was started. -/
structure Host.Ready (h : Host) : Prop where
  configured : h.config.isSome = true
  started : h.broker.stage ≠ .idle

namespace Host.Ready

variable {h : Host}

theorem of_owner (h : Host) (o : Owner) (ready : h.Ready) : Ready { h with owner := o } :=
  ⟨ready.configured, ready.started⟩

end Host.Ready

namespace Action

variable {α β ε : Type} {panics : Prop}

theorem ensure_of_ready {h : Host} (ready : h.Ready) : ensure.run h = (.ok (), h) := by
  have configured : h.config.isNone = false := by
    rw [← Option.not_isSome, ready.configured]
    rfl
  unfold ensure
  rw [run_get_bind, configured]
  rfl

theorem ensureStarted_of_started {h : Host} (started : h.broker.stage ≠ .idle) :
    ensureStarted.run h = (.ok (), h) := by
  unfold ensureStarted
  rw [run_get_bind, if_neg started]
  rfl

/-! ## Jobs -/

theorem keeps_exec (task : Task) : Keeps Host.Ready panics (exec task) := by
  intro h ready
  unfold exec
  rw [run_bind_of_ok (ensureStarted_of_started ready.started), run_get_bind]
  rcases submitted : h.broker.submit task with e | broker
  · exact ⟨ready, fun p error => by cases error⟩
  · refine ⟨⟨ready.configured, ?_⟩, fun p error => by cases error⟩
    change broker.stage ≠ .idle
    rw [Broker.stage_of_submit submitted]
    decide

theorem keeps_drain : Keeps Host.Ready panics drain :=
  keeps_modify fun h ready => ⟨ready.configured, by
    change (h.broker.drain h.owner).1.stage ≠ .idle
    rw [Broker.stage_drain]
    exact ready.started⟩

/-- Whatever a job ends in, whoever waits for it gets an answer. -/
theorem keeps_runAccepted {code : Action α} (keeps : Keeps Host.Ready True code) :
    Keeps Host.Ready panics (runAccepted code) := by
  refine keeps_bind (keeps_modify fun h ready => ⟨ready.configured, ready.started⟩) fun _ => ?_
  refine keeps_bind (keeps_tryCatch (keeps_bind keeps fun _ => keeps_pure _) fun _ => keeps_pure _)
    fun outcome => ?_
  refine keeps_bind (keeps_modify fun h ready => ⟨ready.configured, ready.started⟩) fun _ => ?_
  exact keeps_pure _

/-- A job that someone waits for never panics, whatever runs in it. -/
theorem keeps_execSync {code : Action α} (keeps : Keeps Host.Ready True code) :
    Keeps Host.Ready panics (execSync code) := by
  intro h ready
  unfold execSync
  rw [run_get_bind]
  by_cases inside : h.insideJob = true
  · rw [if_pos inside]
    exact keeps_pure _ h ready
  · rw [if_neg inside, run_bind_of_ok (ensureStarted_of_started ready.started), run_get_bind]
    rcases accepted : h.broker.accept with e | broker
    · exact keeps_pure _ h ready
    · have running : broker.stage ≠ .idle := by
        rw [(Broker.stage_of_accept accepted).2]
        decide
      exact keeps_bind keeps_drain (fun _ => keeps_runAccepted keeps) { h with broker }
        ⟨ready.configured, running⟩

theorem keeps_jobTrue (code : Job α) : Keeps Host.Ready True (job code) :=
  keeps_job Host.Ready.of_owner fun _ _ _ => trivial

/-- A call never panics. -/
theorem keeps_runCall (name : String) (code : Job (Except CallError α)) :
    Keeps Host.Ready panics (runCall name code) := by
  intro h ready
  unfold runCall
  rw [run_bind_of_ok (ensure_of_ready ready)]
  refine keeps_bind (keeps_execSync (keeps_jobTrue code)) (fun result => ?_) h ready
  cases result <;> exact keeps_pure _

theorem keeps_callOn (handle : Handle) (released name : String) (code : Ref → Call α) :
    Keeps Host.Ready panics (callOn handle released name code) := by
  unfold callOn
  split
  · exact keeps_pure _
  · exact keeps_runCall name _

theorem keeps_drop (handle : Handle) : Keeps Host.Ready True handle.drop := by
  unfold Handle.drop
  split
  · exact keeps_pure _
  · refine keeps_bind keeps_get fun h => ?_
    split
    · exact keeps_jobTrue _
    · refine keeps_bind (keeps_exec _) fun result => ?_
      split
      · exact keeps_jobTrue _
      · exact keeps_pure _

theorem keeps_dropping (handle : Handle) {code : ExceptT ε Action α} (keeps : Keeps Host.Ready True code.run) :
    Keeps Host.Ready True (handle.dropping code).run := by
  refine keeps_bind (keeps_tryCatch keeps fun p => ?_) fun result => ?_
  · exact keeps_bind (keeps_drop handle) fun _ => keeps_throw p
  · exact keeps_bind (keeps_drop handle) fun _ => keeps_pure _

theorem keeps_release (handle : Handle) : Keeps Host.Ready panics handle.release := by
  have quiet (r : Ref) : Keeps Host.Ready panics (job (Job.release r)) :=
    keeps_job Host.Ready.of_owner fun _ _ error => by cases error
  unfold Handle.release
  split
  · exact keeps_pure _
  · refine keeps_bind keeps_get fun h => ?_
    split
    · exact keeps_bind (quiet _) fun _ => keeps_pure _
    · exact keeps_bind (keeps_execSync (keeps_jobTrue _)) fun _ => keeps_pure _

/-! ## The first call -/

section

variable {I : Host → Prop}
  (steady : ∀ h owner stage threadName isKilled, I h →
    I { h with owner, threadName, isKilled, broker := { h.broker with stage } })
include steady

/-- Starting the interpreter touches the owner, the stage of the broker and the name of the thread. -/
theorem keeps_startOwner (config : InterpreterConfig) (hook : StartupHook) :
    Keeps I True (startOwner config hook) := by
  unfold startOwner
  refine keeps_bind (keeps_modify fun h holds => steady h _ h.broker.stage h.threadName h.isKilled holds) fun _ => ?_
  refine keeps_bind (keeps_job (fun h o holds => steady h o h.broker.stage h.threadName h.isKilled holds)
    fun _ _ _ => trivial) fun r => ?_
  split
  · exact keeps_pure _
  · exact keeps_bind (keeps_modify fun h holds => steady h h.owner _ _ h.isKilled holds) fun _ => keeps_pure _

/-- Starting the owning thread touches no more, but that the process may end by it. -/
theorem keeps_start (config : InterpreterConfig) (hook : StartupHook) : Keeps I True (start config hook) := by
  unfold start
  split
  · exact keeps_throw_bind _ _
  · refine keeps_bind keeps_get fun h => ?_
    split
    · exact keeps_pure _
    · exact keeps_pure _
    · exact keeps_bind (keeps_modify fun h holds => steady h h.owner _ h.threadName true holds) fun _ => keeps_throw _
    · exact keeps_startOwner steady _ _

theorem keeps_ensureStarted : Keeps I True ensureStarted := by
  unfold ensureStarted
  refine keeps_bind keeps_get fun h => ?_
  split
  · refine keeps_bind (keeps_start steady _ _) fun result => ?_
    split
    · exact keeps_throw _
    · exact keeps_pure _
  · exact keeps_pure _

end

theorem configured_of_ensure {h h' : Host} (run : ensure.run h = (.ok (), h')) :
    h'.config.isSome = true := by
  unfold ensure at run
  rw [run_get_bind] at run
  by_cases missing : h.config.isNone = true
  · rw [if_pos missing] at run
    obtain ⟨config, h₁, -, run⟩ := of_run_bind run
    obtain ⟨result, h₂, -, run⟩ := of_run_bind run
    cases result <;> cases run
    rfl
  · rw [if_neg missing] at run
    cases run
    rwa [← Option.not_isNone, Bool.not_eq_true', ← Bool.not_eq_true]

/-- A job that has a result leaves a host that is ready, if there was a configuration. -/
theorem ready_of_execSync {code : Action α} (keeps : Keeps Host.Ready True code) {h h' : Host} {a : α}
    (configured : h.config.isSome = true) (run : (execSync code).run h = (.ok (.ok a), h')) :
    h'.Ready := by
  unfold execSync at run
  rw [run_get_bind] at run
  by_cases inside : h.insideJob = true
  · rw [if_pos inside] at run
    cases run
  · rw [if_neg inside] at run
    obtain ⟨_, h₁, started, run⟩ := of_run_bind run
    have kept : h₁.config.isSome = true := by
      have kept := (keeps_ensureStarted (I := fun h => h.config.isSome = true) (fun _ _ _ _ _ kept => kept)
        h configured).1
      rwa [started] at kept
    rw [run_get_bind] at run
    rcases accepted : h₁.broker.accept with e | broker
    · rw [accepted] at run
      cases run
    · rw [accepted] at run
      have running : broker.stage ≠ .idle := by
        rw [(Broker.stage_of_accept accepted).2]
        decide
      have rest : Keeps Host.Ready True (drain >>= fun _ => runAccepted code) :=
        keeps_bind keeps_drain fun _ => keeps_runAccepted keeps
      have ready := (rest { h₁ with broker } ⟨kept, running⟩).1
      rwa [show (drain >>= fun _ => runAccepted code).run { h₁ with broker } = _ from run] at ready

/-- A call that has a result leaves a host that is ready, whatever it was before. -/
theorem ready_of_runCall {name : String} {code : Job (Except CallError α)} {h h' : Host} {a : α}
    (run : (runCall name code).run h = (.ok (.ok a), h')) : h'.Ready := by
  unfold runCall at run
  obtain ⟨_, h₁, ensured, run⟩ := of_run_bind run
  obtain ⟨result, h₂, executed, run⟩ := of_run_bind run
  cases result with
  | error e => cases run
  | ok result =>
    cases run
    exact ready_of_execSync (keeps_jobTrue code) (configured_of_ensure ensured) executed

end Action

end InterpreterHost
