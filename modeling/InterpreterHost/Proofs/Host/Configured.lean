import InterpreterHost.Proofs.Host.Starting

/-!
# The configuration in force

A session reports the configuration that it keeps.  If it started the owning thread itself, the directories
of that configuration were put on the search path before the first job.  If somebody else had started the
owning thread, the session keeps the configuration that the environment names and puts nothing on the search
path.  This file says which of the two it was, after any steps of the threads of a process.

## Main definitions

* `Host.Accounted` — where the configuration of the session comes from
* `Host.KeepsLate` — the first call keeps a configuration although the owning thread runs
* `Host.Step`, `Host.Run` — what the threads of a process do to the owning thread and to the session
* `Host.InForce` — what holds of the configuration that is reported

## Main statements

* `Host.Accounted.ensure` — the first call keeps account of the configuration
* `Host.Accounted.step` — so does every step
* `Host.Run.inForce` — the directories of the configuration that is reported are searched, unless it was kept
  late
-/

namespace InterpreterHost

/-! ## Where the configuration comes from -/

/-- What is known of a host: no job is under way, the tasks in line take no directory off the search path,
and the directories of the configuration are searched, unless it is one that was kept `late`. -/
structure Host.Accounted (late : Config → Prop) (h : Host) : Prop where
  outside : h.insideJob = false
  tasks : ∀ t ∈ h.broker.queue, t.KeepsPath
  started : h.config.isSome = true → h.broker.stage ≠ .idle
  config : ∀ c, h.config = some c → late c ∨ ∀ d ∈ c.interpreter.searchPaths, h.owner.SearchesIn d

/-- The configuration that the environment names is kept late if the first call comes now: the owning thread
runs, and the session has not started. -/
def Host.KeepsLate (h : Host) (c : Config) : Prop :=
  h.config = none ∧ h.broker.stage = .running ∧ h.surroundings.configuration = .ok c

namespace Host

variable {α : Type} {late : Config → Prop} {h h' : Host}

theorem Unconfigured.accounted (unconfigured : h.Unconfigured) : h.Accounted late where
  outside := unconfigured.outside
  tasks := unconfigured.tasks
  started configured := by
    rw [unconfigured.config] at configured
    cases configured
  config c some' := by
    rw [unconfigured.config] at some'
    cases some'

theorem Unconfigured.follows (unconfigured : h.Unconfigured) (follows : h.Follows h') : h'.Unconfigured :=
  ⟨follows.inside.trans unconfigured.outside, follows.config.trans unconfigured.config, follows.goes.tasks⟩

/-- The session keeps a configuration once the owning thread has started. -/
theorem Unconfigured.keep (unconfigured : h.Unconfigured) (started : h.broker.stage ≠ .idle) {c : Config}
    (source : late c ∨ ∀ d ∈ c.interpreter.searchPaths, h.owner.SearchesIn d) :
    Accounted late { h with config := some c } where
  outside := unconfigured.outside
  tasks := unconfigured.tasks
  started _ := started
  config _ same := by
    cases same
    exact source

namespace Accounted

theorem unconfigured (accounted : h.Accounted late) (missing : h.config = none) : h.Unconfigured :=
  ⟨accounted.outside, missing, accounted.tasks⟩

theorem unconfigured_of_idle (accounted : h.Accounted late) (idle : h.broker.stage = .idle) : h.Unconfigured := by
  refine accounted.unconfigured ?_
  cases config : h.config with
  | none => rfl
  | some c => exact absurd idle (accounted.started (by rw [config]; rfl))

theorem follows (accounted : h.Accounted late) (follows : h.Follows h') : h'.Accounted late where
  outside := follows.inside.trans accounted.outside
  tasks := follows.goes.tasks
  started _ := follows.goes.started
  config c some' := by
    rw [follows.config] at some'
    exact (accounted.config c some').imp_right fun searches d mem => follows.searches d (searches d mem)

/-- Whatever needs the owning thread may start it; what is known of the host stays. -/
theorem after_ensureStarted {next : Unit → Action α} (accounted : h.Accounted late)
    (kept : ∀ h₁ : Host, h₁.Accounted late → h₁.broker.stage ≠ .idle →
      ((Action.ensureStarted >>= next).run h₁).2.Accounted late) :
    ((Action.ensureStarted >>= next).run h).2.Accounted late := by
  by_cases idle : h.broker.stage = .idle
  · have unconfigured := (Action.keeps_ensureStarted (I := Unconfigured)
      (fun _ _ _ _ _ holds => { holds with }) h (accounted.unconfigured_of_idle idle)).1
    rw [run_bind]
    rcases run : Action.ensureStarted.run h with ⟨p | ⟨⟩, h₁⟩
    · rw [run] at unconfigured
      exact unconfigured.accounted
    · rw [run] at unconfigured
      have started := Action.started_of_ensureStarted run
      have same := kept h₁ unconfigured.accounted started
      rwa [Action.run_bind_of_ok (Action.ensureStarted_of_started started)] at same
  · exact kept h accounted idle

theorem exec (accounted : h.Accounted late) {t : Task} (keeps : t.KeepsPath) :
    ((Action.exec t).run h).2.Accounted late :=
  accounted.after_ensureStarted fun _ known started =>
    known.follows (Goes.follows_exec ⟨started, known.tasks⟩ keeps)

theorem execSync (accounted : h.Accounted late) {code : Action α} (modest : code.Modest) :
    ((Action.execSync code).run h).2.Accounted late := by
  unfold Action.execSync
  rw [Action.run_get_bind, accounted.outside, if_neg Bool.false_ne_true]
  refine accounted.after_ensureStarted fun h₁ known started => ?_
  have kept := known.follows (Goes.follows_execSync ⟨started, known.tasks⟩ modest)
  unfold Action.execSync at kept
  rwa [Action.run_get_bind, known.outside, if_neg Bool.false_ne_true] at kept

theorem terminate (accounted : h.Accounted late) : (Action.terminate.run h).2.Accounted late := by
  by_cases idle : h.broker.stage = .idle
  · unfold Action.terminate
    rw [Action.run_get_bind, if_pos idle]
    exact accounted
  · exact accounted.follows (Goes.follows_terminate ⟨idle, accounted.tasks⟩)

theorem startWith (accounted : h.Accounted late) (config : InterpreterConfig) (hook : StartupHook) :
    ((Action.startWith config hook).run h).2.Accounted late := by
  by_cases idle : h.broker.stage = .idle
  · exact (Action.unconfigured_startWith config hook h (accounted.unconfigured_of_idle idle)).1.accounted
  · unfold Action.startWith
    rw [Action.run_get_bind, if_neg idle]
    exact accounted

theorem appendPaths (accounted : h.Accounted late) (paths : List String) :
    ((Action.appendPaths paths).run h).2.Accounted late := by
  unfold Action.appendPaths
  split
  · exact accounted
  · have kept := accounted.execSync (Action.modest_job (Job.keepsPath_appendSearchPath paths))
    rw [run_bind]
    rcases run : (Action.execSync (Action.job (Job.appendSearchPath paths))).run h with ⟨p | result, h₁⟩
    · rwa [run] at kept
    · rw [run] at kept
      cases result <;> exact kept

/-- The session that starts the owning thread keeps the configuration that it starts it with. -/
theorem startSession (accounted : h.Accounted late) (config : Config) :
    ((Action.startSession config).run h).2.Accounted late := by
  unfold Action.startSession
  rw [Action.run_get_bind]
  split
  · exact accounted
  · next missing =>
    have unconfigured := (Action.unconfigured_startWith config.interpreter Job.prepareHook h
      (accounted.unconfigured (Option.not_isSome_iff_eq_none.1 missing))).1
    rw [run_bind]
    rcases run : (Action.startWith config.interpreter Job.prepareHook).run h with ⟨p | e | ⟨⟩, h₁⟩
    · rw [run] at unconfigured
      exact unconfigured.accounted
    · rw [run] at unconfigured
      exact unconfigured.accounted
    · rw [run] at unconfigured
      obtain ⟨running, searches⟩ := Action.searches_of_startWith Job.keepsPath_prepareHook run
      exact unconfigured.keep (by simp [running]) (.inr searches)

end Accounted

/-- What comes of starting or preparing, before the session keeps the configuration. -/
theorem Unconfigured.startPrepared (unconfigured : h.Unconfigured) (config : InterpreterConfig) :
    ((Action.startPrepared config).run h).2.Unconfigured ∧
      ∀ h', (Action.startPrepared config).run h = (.ok (.ok ()), h') → h'.broker.stage ≠ .idle ∧
        (h.broker.stage = .running ∨ ∀ d ∈ config.searchPaths, h'.owner.SearchesIn d) := by
  by_cases idle : h.broker.stage = .idle
  · have kept := (Action.unconfigured_startWith config Job.prepareHook h unconfigured).1
    obtain ⟨same, ended⟩ := Action.startPrepared_of_idle config idle
    refine ⟨same ▸ kept, fun h' run => ?_⟩
    obtain ⟨running, searches⟩ := Action.searches_of_startWith Job.keepsPath_prepareHook (ended h' run)
    exact ⟨by simp [running], .inr searches⟩
  · obtain ⟨same, ended⟩ := Action.startPrepared_of_started config idle
    have follows := Goes.follows_execSync ⟨idle, unconfigured.tasks⟩
      (Action.modest_job Job.keepsPath_prepareHook)
    refine ⟨same ▸ unconfigured.follows follows, fun h' run => ?_⟩
    have prepared := ended h' run
    rw [prepared] at follows
    refine ⟨follows.goes.started, .inl ?_⟩
    by_contra closed
    rw [Process.run_execSync_closed unconfigured.outside idle closed] at prepared
    cases prepared

namespace Accounted

/-- The first call keeps the configuration that the environment names, and the default one if it names none
that can be read.  It is kept late if the owning thread runs already. -/
theorem ensure (accounted : h.Accounted late) (lately : ∀ c, h.KeepsLate c → late c) :
    (Action.ensure.run h).2.Accounted late := by
  cases config : h.config with
  | some c =>
    have configured : h.config.isSome = true := by rw [config]; rfl
    rw [Action.ensure_of_ready ⟨configured, accounted.started configured⟩]
    exact accounted
  | none =>
    obtain ⟨named, source⟩ := Action.unconfigured_environmentConfig h (accounted.unconfigured config)
    unfold Action.ensure
    rw [Action.run_get_bind, config, Option.isNone_none, if_pos rfl, run_bind]
    rcases read : Action.environmentConfig.run h with ⟨p | c, h₁⟩
    · rw [read] at named
      exact named.accounted
    · rw [read] at named
      obtain ⟨stage, source⟩ := source c h₁ read
      obtain ⟨kept, started⟩ := named.startPrepared c.interpreter
      change ((Action.startPrepared c.interpreter >>= _).run h₁).2.Accounted late
      rw [run_bind]
      rcases run : (Action.startPrepared c.interpreter).run h₁ with ⟨p | e | ⟨⟩, h₂⟩
      all_goals rw [run] at kept
      · exact kept.accounted
      · exact kept.accounted
      · obtain ⟨going, searches⟩ := started h₂ run
        refine kept.keep going ?_
        rcases source with rfl | named
        · exact .inr (List.forall_mem_nil _)
        · exact searches.imp_left fun running => lately c ⟨config, stage ▸ running, named⟩

/-- What is done once the session has started. -/
theorem after_ensure {next : Unit → Action α} (accounted : h.Accounted late) (lately : ∀ c, h.KeepsLate c → late c)
    (kept : ∀ h₁ : Host, h₁.Accounted late → ((next ()).run h₁).2.Accounted late) :
    ((Action.ensure >>= next).run h).2.Accounted late := by
  have ensured := accounted.ensure lately
  rw [run_bind]
  rcases run : Action.ensure.run h with ⟨p | ⟨⟩, h₁⟩
  · rwa [run] at ensured
  · rw [run] at ensured
    exact kept h₁ ensured

theorem runCall (accounted : h.Accounted late) (lately : ∀ c, h.KeepsLate c → late c) (name : String)
    {code : Job (Except CallError α)} (keeps : code.KeepsPath) :
    ((Action.runCall name code).run h).2.Accounted late := by
  refine accounted.after_ensure lately fun h₁ known => ?_
  have kept := known.execSync (Action.modest_job keeps)
  rw [run_bind]
  rcases run : (Action.execSync (Action.job code)).run h₁ with ⟨p | result, h₂⟩
  · rwa [run] at kept
  · rw [run] at kept
    cases result <;> exact kept

theorem appendSearchPath (accounted : h.Accounted late) (lately : ∀ c, h.KeepsLate c → late c)
    (paths : List String) : ((Action.appendSearchPath paths).run h).2.Accounted late := by
  refine accounted.after_ensure lately fun h₁ known => ?_
  have kept := known.appendPaths paths
  rw [run_bind]
  rcases run : (Action.appendPaths paths).run h₁ with ⟨p | result, h₂⟩ <;> rwa [run] at kept

end Accounted

/-! ## Runs of a process -/

/-- One thing that a thread of the process does: it uses the owning thread directly, or it uses the session,
or it changes what the process is given from outside. -/
inductive Step (h : Host) : Host → Prop
  | exec {t : Task} (keeps : t.KeepsPath) : Step h ((Action.exec t).run h).2
  | execSync {α : Type} {code : Action α} (modest : code.Modest) : Step h ((Action.execSync code).run h).2
  | startWith (config : InterpreterConfig) (hook : StartupHook) :
      Step h ((Action.startWith config hook).run h).2
  | appendPaths (paths : List String) : Step h ((Action.appendPaths paths).run h).2
  | terminate : Step h (Action.terminate.run h).2
  | startSession (config : Config) : Step h ((Action.startSession config).run h).2
  | ensure : Step h (Action.ensure.run h).2
  | runCall {α : Type} (name : String) {code : Job (Except CallError α)} (keeps : code.KeepsPath) :
      Step h ((Action.runCall name code).run h).2
  | appendSearchPath (paths : List String) : Step h ((Action.appendSearchPath paths).run h).2
  | environment (configuration : Except ConfigError Config) :
      Step h { h with surroundings := { h.surroundings with configuration } }
  | foreign : Step h { h with hasForeignInterpreter := true }

/-- Steps of the threads of a process that has just begun, with the hosts that they came by. -/
inductive Run : List Host → Host → Prop
  | start {h : Host} (config : h.config = none) (broker : h.broker = {}) (outside : h.insideJob = false) : Run [] h
  | step {past : List Host} {h h' : Host} (before : Run past h) (next : Step h h') : Run (past ++ [h]) h'

theorem Accounted.step (accounted : h.Accounted late) (lately : ∀ c, h.KeepsLate c → late c) (next : Step h h') :
    h'.Accounted late := by
  cases next with
  | exec keeps => exact accounted.exec keeps
  | execSync modest => exact accounted.execSync modest
  | startWith config hook => exact accounted.startWith config hook
  | appendPaths paths => exact accounted.appendPaths paths
  | terminate => exact accounted.terminate
  | startSession config => exact accounted.startSession config
  | ensure => exact accounted.ensure lately
  | runCall name keeps => exact accounted.runCall lately name keeps
  | appendSearchPath paths => exact accounted.appendSearchPath lately paths
  | environment | foreign => exact { accounted with }

namespace Run

variable {past : List Host}

theorem accounted (run : Run past h) : h.Accounted fun c => ∃ before ∈ past, before.KeepsLate c := by
  induction run with
  | start config broker outside =>
    exact Unconfigured.accounted ⟨outside, config, by rw [broker]; exact List.forall_mem_nil _⟩
  | step before next ih =>
    refine Accounted.step { ih with config := fun c some' => ?_ } (fun c late => ?_) next
    · refine (ih.config c some').imp_left fun ⟨before, mem, late⟩ => ?_
      exact ⟨before, List.mem_append_left _ mem, late⟩
    · exact ⟨_, List.mem_append_right _ (List.mem_singleton_self _), late⟩

end Run

/-- A configuration that is kept late leaves the search path to the tasks that are in line. -/
theorem KeepsLate.of_ensure {c : Config} (late : h.KeepsLate c) (outside : h.insideJob = false)
    (run : Action.ensure.run h = (.ok (), h')) :
    h'.config = some c ∧ h'.owner.interpreter.searchPath = h.ownerAfterTasks.interpreter.searchPath := by
  obtain ⟨config, running, named⟩ := late
  have read : Action.environmentConfig.run h = (.ok c, h) := by
    unfold Action.environmentConfig
    rw [Action.run_get_bind, named]
    rfl
  unfold Action.ensure at run
  rw [Action.run_get_bind, config, Option.isNone_none, if_pos rfl, Action.run_bind_of_ok read] at run
  obtain ⟨result, h₁, started, run⟩ := of_run_bind run
  cases result with
  | error e => cases run
  | ok =>
    cases run
    have prepared := (Action.startPrepared_of_started c.interpreter (by simp [running])).2 h₁ started
    rw [Action.run_execSync_job outside (Process.accept_of_running running)] at prepared
    have settles : Owner.Settles fun o => o.interpreter.searchPath = h.ownerAfterTasks.interpreter.searchPath :=
      fun o o' same => same.searchPath.trans
    have kept : Job.Maintains (fun o => o.interpreter.searchPath = h.ownerAfterTasks.interpreter.searchPath)
        Job.prepareHook := .bind (Job.maintains_prepare settles.lookUps) fun _ => .pure _
    have same := congrArg (fun ran : Except Panic _ × Host => ran.2.owner.interpreter.searchPath) prepared
    exact ⟨rfl, same.symm.trans (kept h.ownerAfterTasks rfl)⟩

/-- What holds of the configuration of a host. -/
structure InForce (past : List Host) (h : Host) : Prop where
  /-- The session reports the configuration that it keeps. -/
  reported : h.config.isSome = true → ∃ c, h.config = some c ∧ Action.config.run h = (.ok c, h)
  /-- The directories of that configuration are searched, unless it was kept late. -/
  searched : h.broker.stage = .running → ∀ c, h.config = some c →
    (∀ d ∈ c.interpreter.searchPaths, h.owner.SearchesIn d) ∨ ∃ before ∈ past, before.KeepsLate c
  /-- A configuration that is kept late adds nothing to the search path. -/
  late : ∀ c, h.KeepsLate c → ∀ h', Action.ensure.run h = (.ok (), h') → h'.config = some c ∧
    h'.owner.interpreter.searchPath = h.ownerAfterTasks.interpreter.searchPath

/-- After any steps of the threads of a process the directories of the configuration that is reported are
searched, unless the session kept that configuration when the owning thread ran already.  A session that
does so adds nothing to the search path. -/
theorem Run.inForce {past : List Host} (run : Run past h) : InForce past h where
  reported configured := by
    obtain ⟨c, some'⟩ := Option.isSome_iff_exists.1 configured
    refine ⟨c, some', ?_⟩
    unfold Action.config
    rw [Action.run_bind_of_ok (Action.ensure_of_ready ⟨configured, run.accounted.started configured⟩),
      Action.run_get_bind, some']
    rfl
  searched _ c some' := (run.accounted.config c some').symm
  late _ late _ ensured := late.of_ensure run.accounted.outside ensured

/-- A host whose environment names a directory. -/
def naming (directory : String) : Host :=
  { surroundings := { configuration := .ok { interpreter := { searchPaths := [directory] } } } }

/-- A session that starts the owning thread itself, with a directory that is searched from then on. -/
theorem Run.inForce_startSession : ∃ past h, Run past h ∧ InForce past h ∧
    h.config = some { interpreter := { searchPaths := ["/lib"] } } ∧ h.owner.SearchesIn "/lib" := by
  have run : Run [{}] ((Action.startSession { interpreter := { searchPaths := ["/lib"] } }).run {}).2 :=
    .step (.start rfl rfl rfl) (.startSession _)
  exact ⟨_, _, run, run.inForce, by decide +kernel, by decide +kernel⟩

/-- The environment names a directory, the owning thread is started without one, and then the first call is
made: the session reports a directory that is not searched. -/
theorem Run.exists_not_searched : ∃ past h c, Run past h ∧ h.broker.stage = .running ∧
    (Action.isInitialized.run h).1 = .ok true ∧ (Action.config.run h).1 = .ok c ∧
    ∃ d ∈ c.interpreter.searchPaths, ¬ h.owner.SearchesIn d := by
  have run : Run [naming "/lib", ((Action.startWith {} Action.noHook).run (naming "/lib")).2]
      (Action.ensure.run ((Action.startWith {} Action.noHook).run (naming "/lib")).2).2 :=
    .step (.step (.start rfl rfl rfl) (.startWith _ _)) .ensure
  exact ⟨_, _, { interpreter := { searchPaths := ["/lib"] } }, run, by decide +kernel, by decide +kernel,
    by decide +kernel, "/lib", by decide, by decide +kernel⟩

end Host

end InterpreterHost
