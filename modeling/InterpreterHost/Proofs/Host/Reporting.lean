import InterpreterHost.Proofs.Host.Lifecycle

/-!
# What is told of a start

Whoever asks for a start is told what came of it.  What the system, the search path or the hook has against it
comes back as an error, a panic of the hook as well, and what has failed has started nothing.  Two things are not
looked at.  A configuration may give the thread a name with NUL in it, and to ask the system for such a thread is
a panic.  And it may ask for a stack that the system gives but the interpreter cannot start in: then the thread
runs over its stack, which ends the process.

Which stacks the system gives, and which of them are large enough, is up to the surroundings, and nothing is
assumed of it.

## Main definitions

* `ExplicitStart` — a start that someone asks for
* `Host.Objects` — what is against a start
* `ExplicitStart.Overruns` — the owning thread would run over its stack
* `ExplicitStart.Answers` — what is told of a start

## Main statements

* `ExplicitStart.exists_attempt` — both starts are the one attempt
* `ExplicitStart.answers` — a start is told of, unless the thread cannot be given its name or runs over its stack
* `ExplicitStart.run_nul` — a configuration file can ask for such a name
-/

namespace InterpreterHost

/-- A thread can be given the name: there is no NUL in it. -/
def InterpreterConfig.IsNameable (config : InterpreterConfig) : Prop :=
  config.threadName.toList.contains '\x00' = false

/-! ## Attempts that fail -/

/-- What is against a start, by what is told of it.  Each case is about another step of the start. -/
inductive Host.Objects (h : Host) (config : InterpreterConfig) (hook : StartupHook) : BrokerError → Prop
  | spawn {reason : String} (refused : h.surroundings.stackFate config.stackSize = .refused reason) :
      Objects h config hook (.spawn reason)
  | alreadyInitialized (foreign : h.hasForeignInterpreter = true) : Objects h config hook .alreadyInitialized
  | searchPath {reason : String} (refused : h.pathRefusal config.searchPaths = some reason) :
      Objects h config hook (.searchPath reason)
  | hookFailed {reason : String} (ran : (hook.run (h.ownerAtHook config.searchPaths)).1 = .ok (.error reason)) :
      Objects h config hook (.initFailed reason)
  | hookPanicked {p : Panic} (ran : (hook.run (h.ownerAtHook config.searchPaths)).1 = .error p) :
      Objects h config hook (.initFailed p.message)

namespace Host

variable {h h' : Host} {config : InterpreterConfig} {hook : StartupHook}

theorem run_start_of_unnameable (name : ¬ config.IsNameable) :
    (Action.start config hook).run h = (.error (namePanic config.threadName), h) := by
  rw [Action.run_start, if_pos (Bool.of_not_eq_false name)]

namespace Attempt

/-- Whatever an attempt comes to, the configuration in force is what it was. -/
theorem config_eq {reply : Except Panic (Except BrokerError Unit)} (attempt : h.Attempt config hook reply h') :
    h'.config = h.config := by
  cases attempt <;> rfl

/-- Only the name of the thread makes an attempt panic, or the stack of the thread ends the process. -/
theorem of_panic {p : Panic} (attempt : h.Attempt config hook (.error p) h') :
    (p = namePanic config.threadName ∧ ¬ config.IsNameable ∧ h' = h) ∨
      (config.IsNameable ∧ h.surroundings.stackFate config.stackSize = .overflows ∧ h.hasForeignInterpreter = false) ∧
        h' = { h with isKilled := true } := by
  cases attempt with
  | unnameable name =>
    have no : ¬ config.IsNameable := by
      rw [InterpreterConfig.IsNameable, name]
      decide
    exact .inl ⟨rfl, no, rfl⟩
  | overrun name stack alone => exact .inr ⟨⟨name, stack, alone⟩, rfl⟩

/-- An attempt that runs over the stack is told of to nobody. -/
theorem of_overflow {result : Except BrokerError Unit} (attempt : h.Attempt config hook (.ok result) h')
    (stack : h.surroundings.stackFate config.stackSize = .overflows) : h.hasForeignInterpreter = true := by
  cases attempt with
  | unspawned _ refused => exact nomatch stack.symm.trans refused
  | foreign foreign => exact foreign
  | unsearchable clear | unprepared clear | started clear => exact nomatch stack.symm.trans clear.stack

/-- An error tells what is against the start. -/
theorem objects {e : BrokerError} (attempt : h.Attempt config hook (.ok (.error e)) h') :
    h.Objects config hook e := by
  cases attempt with
  | unspawned _ stack => exact .spawn stack
  | foreign foreign => exact .alreadyInitialized foreign
  | unsearchable _ paths => exact .searchPath paths
  | @unprepared _ _ outcome _ _ ran failed =>
    rcases outcome with p | reason | ⟨⟩
    · cases failed
      exact .hookPanicked (by rw [ran])
    · cases failed
      exact .hookFailed (by rw [ran])
    · cases failed

end Attempt

end Host

/-! ## Starts that are asked for -/

/-- A start that someone asks for. -/
inductive ExplicitStart where
  /-- The owning thread is to start with a hook of the caller's. -/
  | thread (config : InterpreterConfig) (hook : StartupHook)
  /-- The session is to start, and with it the owning thread. -/
  | session (config : Config)

namespace ExplicitStart

/-- How the interpreter and its thread are to start. -/
def config : ExplicitStart → InterpreterConfig
  | thread config _ => config
  | session config => config.interpreter

/-- What is to run before the first job. -/
def hook : ExplicitStart → StartupHook
  | thread _ hook => hook
  | session _ => Job.prepareHook

/-- Nothing that it is to start has started before. -/
def GoesAhead (h : Host) : ExplicitStart → Prop
  | thread _ _ => h.broker.stage = .idle
  | session _ => h.config = none ∧ h.broker.stage = .idle

/-- The thread can be given its name, and then runs over the stack that it is given. -/
def Overruns (h : Host) (start : ExplicitStart) : Prop :=
  start.config.IsNameable ∧ h.surroundings.stackFate start.config.stackSize = .overflows ∧
    h.hasForeignInterpreter = false

/-- The action that is called. -/
def run : ExplicitStart → Action (Except CallError Unit)
  | thread config hook => return (← Action.startWith config hook).mapError .broker
  | session config => Action.startSession config

/-- What a start that has succeeded leaves to be kept. -/
def keep : ExplicitStart → Host → Host
  | thread _ _, h => h
  | session config, h => { h with config := some config }

/-- What is told of an attempt, and the host that is left. -/
def conclude (start : ExplicitStart) : Except Panic (Except BrokerError Unit) × Host →
    Except Panic (Except CallError Unit) × Host
  | (.error p, h) => (.error p, h)
  | (.ok (.error e), h) => (.ok (.error (.broker e)), h)
  | (.ok (.ok ()), h) => (.ok (.ok ()), start.keep h)

variable {start : ExplicitStart} {h h' : Host}

theorem broker_keep (start : ExplicitStart) (h : Host) : (start.keep h).broker = h.broker := by
  cases start <;> rfl

/-- A start that goes ahead is an attempt with its configuration and its hook. -/
theorem exists_attempt (goes : start.GoesAhead h) : ∃ reply h₁, h.Attempt start.config start.hook reply h₁ ∧
    (Action.start start.config start.hook).run h = (reply, h₁) ∧ start.run.run h = start.conclude (reply, h₁) := by
  have attempt := h.attempt_start start.config start.hook
  cases start with
  | thread config hook =>
    have begun := Host.run_startWith_of_idle goes config hook
    refine ⟨_, _, attempt, rfl, ?_⟩
    show (Action.startWith config hook >>= fun result => pure (result.mapError CallError.broker)).run h =
      conclude _ ((Action.start config hook).run h)
    rw [run_bind, begun]
    rcases (Action.start config hook).run h with ⟨p | e | ⟨⟩, h'⟩ <;> rfl
  | session config =>
    obtain ⟨unconfigured, idle⟩ := goes
    have begun := Host.run_startWith_of_idle idle config.interpreter Job.prepareHook
    refine ⟨_, _, attempt, rfl, ?_⟩
    show (Action.startSession config).run h =
      conclude _ ((Action.start config.interpreter Job.prepareHook).run h)
    unfold Action.startSession
    rw [Action.run_get_bind, unconfigured, if_neg (by decide), run_bind, begun]
    rcases (Action.start config.interpreter Job.prepareHook).run h with ⟨p | e | ⟨⟩, h'⟩ <;> rfl

/-- A start that comes late is told so. -/
theorem run_of_not_goesAhead (late : ¬ start.GoesAhead h) :
    start.run.run h = (.ok (.error (.broker .alreadyStarted)), h) := by
  cases start with
  | thread config hook =>
    have refused := Action.run_startWith_of_started late config hook
    show (Action.startWith config hook >>= fun result => pure (result.mapError CallError.broker)).run h = _
    rw [run_bind, refused]
    rfl
  | session config =>
    show (Action.startSession config).run h = _
    unfold Action.startSession
    rw [Action.run_get_bind]
    cases configured : h.config with
    | some c => rfl
    | none =>
      have started : h.broker.stage ≠ .idle := fun idle => late ⟨configured, idle⟩
      rw [if_neg (by decide), run_bind, Action.run_startWith_of_started started]
      rfl

/-- What is told of a start. -/
structure Answers (h : Host) (start : ExplicitStart) : Prop where
  /-- It comes back with a result, unless it goes ahead with a name that no thread can be given or with a stack
  that does not hold. -/
  returns : (∃ result, (start.run.run h).1 = .ok result) ↔
    (start.GoesAhead h → start.config.IsNameable ∧ ¬ start.Overruns h)
  /-- Otherwise it panics over the name, and nothing has happened, or the process is at its end. -/
  panics : ∀ p h', start.run.run h = (.error p, h') →
    (p = namePanic start.config.threadName ∧ ¬ start.config.IsNameable ∧ h' = h) ∨
      start.Overruns h ∧ h' = { h with isKilled := true }
  /-- A start that comes late is told so, and nothing has happened. -/
  late : ¬ start.GoesAhead h → start.run.run h = (.ok (.error (.broker .alreadyStarted)), h)
  /-- A start that goes ahead succeeds unless there is a reason against it, -/
  succeeds : start.GoesAhead h → ((start.run.run h).1 = .ok (.ok ()) ↔ h.Accepts start.config start.hook)
  /-- and its error tells the reason. -/
  objects : start.GoesAhead h → ∀ e h', start.run.run h = (.ok (.error e), h') →
    ∃ reason, e = .broker reason ∧ h.Objects start.config start.hook reason
  /-- The owning thread runs once a start has succeeded. -/
  succeeded : ∀ h', start.run.run h = (.ok (.ok ()), h') → Action.isRunning.run h' = (.ok true, h')
  /-- Any other leaves the owning thread and the session as they were. -/
  failed : ∀ reply h', start.run.run h = (reply, h') → reply ≠ .ok (.ok ()) →
    h'.broker = h.broker ∧ h'.config = h.config
  /-- So neither counts as started after a first start that has failed. -/
  first : h.broker.stage = .idle → h.config = none → ∀ reply h', start.run.run h = (reply, h') →
    reply ≠ .ok (.ok ()) →
      Action.isRunning.run h' = (.ok false, h') ∧ Action.isInitialized.run h' = (.ok false, h')

/-- A start that has not succeeded leaves the owning thread and the session as they were. -/
theorem of_failed {reply : Except Panic (Except CallError Unit)} (ran : start.run.run h = (reply, h'))
    (failed : reply ≠ .ok (.ok ())) : h'.broker = h.broker ∧ h'.config = h.config := by
  by_cases goes : start.GoesAhead h
  · obtain ⟨told, h₁, attempt, -, run⟩ := exists_attempt goes
    rw [run] at ran
    have unsuccessful : told ≠ .ok (.ok ()) := by
      rintro rfl
      cases ran
      exact failed rfl
    have same : h' = h₁ := by
      rcases told with p | e | ⟨⟩
      · cases ran
        rfl
      · cases ran
        rfl
      · exact absurd rfl unsuccessful
    exact same ▸ ⟨(attempt.of_failed unsuccessful).1, attempt.config_eq⟩
  · rw [run_of_not_goesAhead goes] at ran
    cases ran
    exact ⟨rfl, rfl⟩

/-- Whoever asks for a start gets an answer, except over the name of the thread and over its stack. -/
theorem answers (h : Host) (start : ExplicitStart) : Answers h start where
  returns := by
    constructor
    · rintro ⟨result, returned⟩ goes
      obtain ⟨told, h₁, attempt, begun, run⟩ := exists_attempt goes
      have name : start.config.IsNameable := by
        by_contra name
        rw [Host.run_start_of_unnameable name] at begun
        cases begun
        rw [run] at returned
        cases returned
      refine ⟨name, fun overruns => ?_⟩
      obtain ⟨-, stack, alone⟩ := overruns
      rcases told with p | answer
      · rw [run] at returned
        cases returned
      · exact nomatch alone.symm.trans (attempt.of_overflow stack)
    · intro fit
      by_cases goes : start.GoesAhead h
      · obtain ⟨name, holds⟩ := fit goes
        obtain ⟨p | e | ⟨⟩, h₁, attempt, -, run⟩ := exists_attempt goes
        · obtain ⟨-, unnameable, -⟩ | ⟨overruns, -⟩ := attempt.of_panic
          · exact absurd name unnameable
          · exact absurd overruns holds
        · exact ⟨_, congrArg Prod.fst run⟩
        · exact ⟨_, congrArg Prod.fst run⟩
      · exact ⟨_, congrArg Prod.fst (run_of_not_goesAhead goes)⟩
  panics p h' ran := by
    by_cases goes : start.GoesAhead h
    · obtain ⟨p' | e | ⟨⟩, h₁, attempt, -, run⟩ := exists_attempt goes
      · cases run.symm.trans ran
        exact attempt.of_panic
      · cases run.symm.trans ran
      · cases run.symm.trans ran
    · cases (run_of_not_goesAhead goes).symm.trans ran
  late := run_of_not_goesAhead
  succeeds goes := by
    obtain ⟨p | e | ⟨⟩, h₁, attempt, -, run⟩ := exists_attempt goes
    · rw [run, ← attempt.succeeds_iff]
      exact ⟨nofun, nofun⟩
    · rw [run, ← attempt.succeeds_iff]
      exact ⟨nofun, nofun⟩
    · rw [run, ← attempt.succeeds_iff]
      exact ⟨fun _ => rfl, fun _ => rfl⟩
  objects goes e h' ran := by
    obtain ⟨p | reason | ⟨⟩, h₁, attempt, -, run⟩ := exists_attempt goes
    · cases run.symm.trans ran
    · cases run.symm.trans ran
      exact ⟨reason, rfl, attempt.objects⟩
    · cases run.symm.trans ran
  succeeded h' ran := by
    by_cases goes : start.GoesAhead h
    · obtain ⟨p | reason | ⟨⟩, h₁, attempt, -, run⟩ := exists_attempt goes
      · cases run.symm.trans ran
      · cases run.symm.trans ran
      · cases run.symm.trans ran
        have running : (start.keep h₁).broker.stage = .running := by
          rw [broker_keep, attempt.of_succeeded.1]
        rw [Host.run_isRunning, running]
        rfl
    · cases (run_of_not_goesAhead goes).symm.trans ran
  failed _ _ := of_failed
  first idle unconfigured reply h' ran failed := by
    obtain ⟨broker, config⟩ := of_failed ran failed
    constructor
    · rw [Host.run_isRunning, broker, idle]
      rfl
    · show (Except.ok h'.config.isSome, h') = (Except.ok false, h')
      rw [config, unconfigured, Option.isSome_none]

/-- A configuration that gives the thread a name with NUL in it. -/
def nulConfig : Config := { interpreter := { threadName := "a\x00b" } }

/-- A file with this configuration. -/
def nulText : List Char :=
  "\x7b\"interpreter\": \x7b\"thread_name\": \"a\\u0000b\"\x7d\x7d".toList

/-- The panic over the name. -/
def nulPanic : Panic := ⟨"thread name may not contain interior null bytes: NulError(1, [97, 0, 98])"⟩

/-- A configuration file can ask for a name with NUL in it, and with it every first start panics. -/
theorem run_nul : Config.ofFile "pyhost.json" (.ok (Utf8.encode nulText)) = .ok nulConfig ∧
    (∀ hook, (Action.startWith nulConfig.interpreter hook).run {} = (.error nulPanic, {})) ∧
      (Action.startSession nulConfig).run {} = (.error nulPanic, {}) := by
  have name : ¬ nulConfig.interpreter.IsNameable := by
    rw [InterpreterConfig.IsNameable]
    decide
  have message : namePanic nulConfig.interpreter.threadName = nulPanic := by decide +kernel
  have begun (hook : StartupHook) : (Action.startWith nulConfig.interpreter hook).run {} = (.error nulPanic, {}) := by
    rw [Host.run_startWith_of_idle rfl, Host.run_start_of_unnameable name, message]
  refine ⟨by decide +kernel, begun, ?_⟩
  unfold Action.startSession
  rw [Action.run_get_bind, if_neg (by decide), run_bind, begun]

end ExplicitStart

end InterpreterHost
