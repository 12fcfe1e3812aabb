import InterpreterHost.Proofs.Host.SearchPath

/-!
# Starting with directories

The owning thread puts the directories that it is started with on the search path before the first job.
Nothing that the host does later takes one off again, and what happens inside a job does not touch the
configuration of the session.

## Main definitions

* `Owner.SearchesIn` — modules are searched in a directory
* `Job.KeepsPath`, `Task.KeepsPath` — code that takes no directory off the search path
* `Host.Follows` — what using a host whose owning thread has started leaves as it is
* `Action.Modest` — what a job may do
* `Host.Unconfigured` — the session has not started

## Main statements

* `SearchPath.searches_of_append` — directories that were added are searched
* `Action.of_start`, `Action.searches_of_start` — what starting the owning thread comes to
* `Host.Goes.follows_execSync` — so it is with a job that is waited for
* `Action.modest_ensure` — a job may be the first to ask for the session
* `Action.startPrepared_of_idle`, `Action.startPrepared_of_started` — a session starts the owning thread, or
  prepares the interpreter in a job
-/

namespace InterpreterHost

/-! ## Directories that are searched -/

namespace SearchPath

variable {s : SearchPath} {items : List SearchItem} {path : String} {paths : List String}

theorem searches_iff : s.searches path = true ↔ .directory path ∈ s.items := List.contains_iff_mem

theorem mem_of_membership (found : membership path items = some true) : .directory path ∈ items := by
  induction items with
  | nil => cases found
  | cons item items ih =>
    cases item with
    | incomparable => cases found
    | text t =>
      rw [membership] at found
      split at found
      · next same => exact same ▸ List.mem_cons_self
      · exact List.mem_cons_of_mem _ (ih found)

theorem mem_appendItems {item : SearchItem} (mem : item ∈ items) : item ∈ (appendItems items paths).1 := by
  fun_induction appendItems items paths with
  | case1 items => exact mem
  | case2 items path paths failed => exact mem
  | case3 items path paths found ih => exact ih mem
  | case4 items path paths missing ih => exact ih (List.mem_append_left _ mem)

theorem directory_mem_appendItems (added : (appendItems items paths).2 = none) :
    ∀ path ∈ paths, .directory path ∈ (appendItems items paths).1 := by
  fun_induction appendItems items paths with
  | case1 items => exact List.forall_mem_nil _
  | case2 items path paths failed => cases added
  | case3 items path paths found ih =>
    exact List.forall_mem_cons.2 ⟨mem_appendItems (mem_of_membership found), ih added⟩
  | case4 items path paths missing ih =>
    refine List.forall_mem_cons.2 ⟨mem_appendItems ?_, ih added⟩
    exact List.mem_append_right _ (List.mem_singleton_self _)

/-- Directories are added to a list one after the other. -/
theorem append_list (items : List SearchItem) (paths : List String) :
    ((list items).append paths).1 = list (appendItems items paths).1 ∧
      (((list items).append paths).2 = none ↔ (appendItems items paths).2 = none) := by
  cases paths with
  | nil => exact ⟨rfl, Iff.rfl⟩
  | cons first rest => exact ⟨rfl, Option.map_eq_none_iff⟩

/-- What is searched stays so when directories are added, even if that fails. -/
theorem searches_append (searches : s.searches path = true) : (s.append paths).1.searches path = true := by
  cases s with
  | list items =>
    rw [(append_list items paths).1]
    exact searches_iff.2 (mem_appendItems (searches_iff.1 searches))
  | frozen | missing => cases paths <;> exact searches

/-- Directories that were added are searched. -/
theorem searches_of_append (added : (s.append paths).2 = none) :
    ∀ path ∈ paths, (s.append paths).1.searches path = true := by
  cases s with
  | list items =>
    rw [(append_list items paths).1]
    rw [(append_list items paths).2] at added
    exact fun path mem => searches_iff.2 (directory_mem_appendItems added path mem)
  | frozen | missing =>
    cases paths with
    | nil => exact List.forall_mem_nil _
    | cons first rest => cases added

end SearchPath

/-- Modules are searched in the directory. -/
def Owner.SearchesIn (directory : String) (o : Owner) : Prop :=
  o.interpreter.searchPath.searches directory = true

instance (directory : String) (o : Owner) : Decidable (o.SearchesIn directory) :=
  inferInstanceAs (Decidable (_ = true))

/-- The job takes no directory off the search path. -/
def Job.KeepsPath {α : Type} (code : Job α) : Prop := ∀ d, Job.Maintains (Owner.SearchesIn d) code

/-- Neither the task nor what it queues takes a directory off the search path. -/
def Task.KeepsPath (t : Task) : Prop := ∀ d, t.Maintains (Owner.SearchesIn d)

theorem Owner.settles_searchesIn (d : String) : Owner.Settles (Owner.SearchesIn d) := by
  intro o o' same searches
  unfold SearchesIn
  rw [same.searchPath]
  exact searches

namespace Job

variable {paths : List String} {hook : StartupHook} {o o' : Owner}

/-- What is left once directories were added, and whether they all were. -/
theorem run_appendSearchPath (paths : List String) (o : Owner) :
    (appendSearchPath paths).run o =
      (.ok (match (o.interpreter.searchPath.append paths).2 with
        | none => .ok ()
        | some reason => .error (.searchPath reason)),
        { o with interpreter :=
          { o.interpreter with searchPath := (o.interpreter.searchPath.append paths).1 } }) := by
  unfold appendSearchPath
  rw [run_get_bind]
  rcases o.interpreter.searchPath.append paths with ⟨searchPath, failure⟩
  cases failure <;> rfl

theorem keepsPath_appendSearchPath (paths : List String) : KeepsPath (appendSearchPath paths) := by
  intro d o searches
  rw [run_appendSearchPath]
  exact SearchPath.searches_append searches

theorem keepsPath_prepareHook : KeepsPath prepareHook := fun d =>
  .bind (maintains_prepare (Owner.settles_searchesIn d).lookUps) fun _ => .pure _

/-- The directories that the owning thread starts with are searched before the first job. -/
theorem searches_of_startUp (keeps : KeepsPath hook) (run : (startUp paths hook).run o = (.ok (.ok ()), o')) :
    ∀ d ∈ paths, o'.SearchesIn d := by
  intro d mem
  unfold startUp at run
  obtain ⟨result, o₁, appended, run⟩ := of_run_bind run
  rw [run_appendSearchPath] at appended
  rcases added : (o.interpreter.searchPath.append paths).2 with _ | reason
  · rw [added] at appended
    cases appended
    have hooked : Job.Maintains (Owner.SearchesIn d) (tryCatch hook fun p => return .error p.message) :=
      .tryCatch (keeps d) fun _ => .pure _
    obtain ⟨prepared, o₂, ran, run⟩ := of_run_bind run
    have appended : Owner.SearchesIn d { o with interpreter :=
        { o.interpreter with searchPath := (o.interpreter.searchPath.append paths).1 } } :=
      SearchPath.searches_of_append added d mem
    have kept := hooked _ appended
    rw [ran] at kept
    cases prepared <;> cases run
    exact kept
  · rw [added] at appended
    cases appended
    cases run

/-- The first thing that the owning thread does does not fail since the thread has started. -/
theorem startUp_ne_alreadyStarted : (startUp paths hook).run o ≠ (.ok (.error .alreadyStarted), o') := by
  intro run
  unfold startUp at run
  obtain ⟨result, o₁, appended, run⟩ := of_run_bind run
  rw [run_appendSearchPath] at appended
  cases result with
  | error e =>
    cases run
    split at appended <;> cases appended
  | ok =>
    obtain ⟨prepared, o₂, ran, run⟩ := of_run_bind run
    cases prepared <;> cases run

end Job

/-! ## What jobs do -/

/-- The owning thread was started, and the tasks in line take no directory off the search path. -/
structure Host.Goes (h : Host) : Prop where
  started : h.broker.stage ≠ .idle
  tasks : ∀ t ∈ h.broker.queue, t.KeepsPath

/-- The second host goes on from the first, with the same configuration and all directories that were
searched. -/
structure Host.Follows (h h' : Host) : Prop where
  goes : h'.Goes
  inside : h'.insideJob = h.insideJob
  config : h'.config = h.config
  searches : ∀ d, h.owner.SearchesIn d → h'.owner.SearchesIn d

/-- Code that a job may run: it takes no directory off the search path, and it does not touch the
configuration, which inside a job nothing does. -/
def Action.Modest {α : Type} (code : Action α) : Prop :=
  ∀ h : Host, h.insideJob = true → h.Goes → h.Follows (code.run h).2

namespace Host

variable {α β : Type} {h h' h'' : Host}

theorem Follows.refl (goes : h.Goes) : h.Follows h := ⟨goes, rfl, rfl, fun _ searches => searches⟩

theorem Follows.trans (first : h.Follows h') (second : h'.Follows h'') : h.Follows h'' :=
  ⟨second.goes, second.inside.trans first.inside, second.config.trans first.config,
    fun d searches => second.searches d (first.searches d searches)⟩

/-- Running the tasks in line. -/
theorem Goes.searches_drain {b : Broker} {o : Owner} {d : String} (tasks : ∀ t ∈ b.queue, t.KeepsPath)
    (searches : o.SearchesIn d) : (b.drain o).2.SearchesIn d :=
  Broker.maintains_drain (Owner.settles_searchesIn d) b o (fun t mem => tasks t mem d) searches

theorem Goes.follows_exec (goes : h.Goes) {t : Task} (keeps : t.KeepsPath) :
    h.Follows ((Action.exec t).run h).2 := by
  rw [Process.run_exec goes.started]
  refine ⟨⟨?_, fun u mem => ?_⟩, rfl, rfl, fun _ searches => searches⟩
  · exact (Broker.stage_submitAll h.broker [t]).symm ▸ goes.started
  · change u ∈ (h.broker.submitAll [t]).queue at mem
    rcases Broker.mem_queue_submitAll mem with earlier | new
    · exact goes.tasks u earlier
    · exact List.mem_singleton.1 new ▸ keeps

theorem Goes.follows_job (goes : h.Goes) {code : Job α} (keeps : code.KeepsPath) :
    h.Follows ((Action.job code).run h).2 := by
  rw [Action.run_job]
  exact ⟨⟨goes.started, goes.tasks⟩, rfl, rfl, fun d => keeps d h.owner⟩

/-- A job that is waited for, after the tasks in line. -/
theorem Goes.follows_execSync (goes : h.Goes) {code : Action α} (modest : code.Modest) :
    h.Follows ((Action.execSync code).run h).2 := by
  by_cases inside : h.insideJob = true
  · rw [Process.run_execSync_inside code inside]
    exact .refl goes
  have outside : h.insideJob = false := Bool.eq_false_iff.2 inside
  by_cases running : h.broker.stage = .running
  · rcases drained : ({ h.broker with submitted := h.broker.submitted + 1 } : Broker).drain h.owner with ⟨b, o⟩
    have stage := Broker.stage_drain { h.broker with submitted := h.broker.submitted + 1 } h.owner
    have queue := Process.queue_drain { h.broker with submitted := h.broker.submitted + 1 } h.owner
    have kept (d : String) (searches : h.owner.SearchesIn d) :
        ({ h.broker with submitted := h.broker.submitted + 1 }.drain h.owner).2.SearchesIn d :=
      Goes.searches_drain goes.tasks searches
    rw [drained] at stage queue kept
    have ready : Goes { h with broker := b, owner := o, insideJob := true } :=
      ⟨fun idle => goes.started (stage.symm.trans idle), queue ▸ List.forall_mem_nil _⟩
    have follows := modest _ rfl ready
    rcases run : code.run { h with broker := b, owner := o, insideJob := true } with ⟨outcome, h'⟩
    rw [run] at follows
    rw [Process.run_execSync outside running drained run]
    exact ⟨⟨follows.goes.started, follows.goes.tasks⟩, outside.symm, follows.config,
      fun d searches => follows.searches d (kept d searches)⟩
  · rw [Process.run_execSync_closed outside goes.started running]
    exact .refl goes

theorem Goes.follows_terminate (goes : h.Goes) : h.Follows (Action.terminate.run h).2 := by
  by_cases inside : h.insideJob = true
  · rw [Process.run_terminate_inside inside goes.started]
    exact .refl goes
  have outside : h.insideJob = false := Bool.eq_false_iff.2 inside
  by_cases running : h.broker.stage = .running
  · rw [Process.run_terminate outside running]
    refine ⟨⟨?_, ?_⟩, rfl, rfl, fun d => Goes.searches_drain (b := h.broker.close) goes.tasks⟩
    · change (h.broker.close.drain h.owner).1.stage ≠ .idle
      rw [Broker.stage_drain]
      exact fun idle => nomatch idle
    · change ∀ t ∈ (h.broker.close.drain h.owner).1.queue, t.KeepsPath
      rw [Process.queue_drain]
      exact List.forall_mem_nil _
  · have closed : h.broker.stage = .terminated := by
      cases stage : h.broker.stage with
      | idle => exact absurd stage goes.started
      | running => exact absurd stage running
      | terminated => rfl
    rw [Process.run_terminate_closed outside closed]
    exact .refl goes

end Host

namespace Action

variable {α β : Type}

theorem modest_job {code : Job α} (keeps : code.KeepsPath) : Modest (job code) :=
  fun _ _ goes => goes.follows_job keeps

theorem modest_bind {code : Action α} {next : α → Action β} (first : Modest code)
    (second : ∀ a, Modest (next a)) : Modest (code >>= next) := by
  intro h inside goes
  have follows := first h inside goes
  rw [run_bind]
  rcases run : code.run h with ⟨p | a, h₁⟩
  · rw [run] at follows
    exact follows
  · rw [run] at follows
    exact follows.trans (second a h₁ (follows.inside.trans inside) follows.goes)

end Action

/-! ## Starting -/

/-- The session has not started, no job is under way, and the tasks in line take no directory off the search
path. -/
structure Host.Unconfigured (h : Host) : Prop where
  outside : h.insideJob = false
  config : h.config = none
  tasks : ∀ t ∈ h.broker.queue, t.KeepsPath

namespace Action

variable {α : Type} {h h' : Host}

theorem unconfigured_start (config : InterpreterConfig) (hook : StartupHook) :
    Keeps Host.Unconfigured True (start config hook) :=
  keeps_start (fun _ _ _ _ _ holds => { holds with }) config hook

/-- What becomes of starting the owning thread is told by its name, its stack and whether there is an interpreter
in the process. -/
theorem run_start (config : InterpreterConfig) (hook : StartupHook) (h : Host) :
    (start config hook).run h =
      if config.threadName.toList.contains '\x00' then (.error (namePanic config.threadName), h)
      else match h.surroundings.stackFate config.stackSize, h.hasForeignInterpreter with
        | .refused reason, _ => (.ok (.error (.spawn reason)), h)
        | _, true => (.ok (.error .alreadyInitialized), h)
        | .overflows, false => (.error (overflowPanic config.threadName), { h with isKilled := true })
        | .holds, false => (startOwner config hook).run h := by
  unfold start
  split
  · rfl
  · obtain ⟨surroundings, _, _, _, _, _, foreign, _⟩ := h
    dsimp only
    rw [run_get_bind]
    dsimp only
    cases surroundings.stackFate config.stackSize <;> cases foreign <;> rfl

/-- What starting the owning thread comes to: it is refused before there is an interpreter, or it comes to
what the first thing that the thread does comes to. -/
theorem of_start {config : InterpreterConfig} {hook : StartupHook} {result : Except BrokerError Unit}
    (run : (start config hook).run h = (.ok result, h')) :
    (∃ reason, result = .error (.spawn reason)) ∨ result = .error .alreadyInitialized ∨
      (result = .ok () → h'.broker.stage = .running) ∧
        ∃ o, (Job.startUp config.searchPaths hook).run o = (.ok result, h'.owner) := by
  rw [run_start] at run
  split at run
  · cases run
  · split at run
    · cases run
      exact .inl ⟨_, rfl⟩
    · cases run
      exact .inr (.inl rfl)
    · cases run
    · unfold startOwner at run
      obtain ⟨_, h₁, fresh, run⟩ := of_run_bind run
      obtain ⟨prepared, h₂, ran, run⟩ := of_run_bind run
      rw [run_job] at ran
      rcases started : (Job.startUp config.searchPaths hook).run h₁.owner with ⟨outcome, owner⟩
      rw [started] at ran
      cases ran
      cases prepared with
      | error e =>
        cases run
        exact .inr (.inr ⟨fun wrong => (nomatch wrong), _, started⟩)
      | ok =>
        cases run
        exact .inr (.inr ⟨fun _ => rfl, _, started⟩)

/-- Once the owning thread has started it runs jobs, and the directories that it was started with are
searched. -/
theorem searches_of_start {config : InterpreterConfig} {hook : StartupHook} (keeps : hook.KeepsPath)
    (run : (start config hook).run h = (.ok (.ok ()), h')) :
    h'.broker.stage = .running ∧ ∀ d ∈ config.searchPaths, h'.owner.SearchesIn d := by
  rcases of_start run with ⟨reason, wrong⟩ | wrong | ⟨running, o, started⟩
  · cases wrong
  · cases wrong
  · exact ⟨running rfl, Job.searches_of_startUp keeps started⟩

/-- The owning thread has started once that was made sure of. -/
theorem started_of_ensureStarted (run : ensureStarted.run h = (.ok (), h')) : h'.broker.stage ≠ .idle := by
  unfold ensureStarted at run
  rw [run_get_bind] at run
  split at run
  · obtain ⟨result, h₁, started, run⟩ := of_run_bind run
    cases result with
    | error e => cases run
    | ok =>
      cases run
      have keeps : Job.KeepsPath noHook := fun _ => .pure _
      simp [(searches_of_start keeps started).1]
  · next started =>
    cases run
    exact started

/-- Starting fails for other reasons than that the owning thread has started. -/
theorem start_ne_alreadyStarted (config : InterpreterConfig) (hook : StartupHook) :
    (start config hook).run h ≠ (.ok (.error .alreadyStarted), h') := by
  intro run
  rcases of_start run with ⟨reason, wrong⟩ | wrong | ⟨-, o, started⟩
  · cases wrong
  · cases wrong
  · exact Job.startUp_ne_alreadyStarted started

/-- Who finds that the owning thread has started has changed nothing. -/
theorem of_startWith_alreadyStarted {config : InterpreterConfig} {hook : StartupHook}
    (run : (startWith config hook).run h = (.ok (.error .alreadyStarted), h')) :
    h.broker.stage ≠ .idle ∧ h' = h := by
  unfold startWith at run
  rw [run_get_bind] at run
  split at run
  · exact absurd run (start_ne_alreadyStarted config hook)
  · next started =>
    cases run
    exact ⟨started, rfl⟩

theorem searches_of_startWith {config : InterpreterConfig} {hook : StartupHook} (keeps : hook.KeepsPath)
    (run : (startWith config hook).run h = (.ok (.ok ()), h')) :
    h'.broker.stage = .running ∧ ∀ d ∈ config.searchPaths, h'.owner.SearchesIn d := by
  unfold startWith at run
  rw [run_get_bind] at run
  split at run
  · exact searches_of_start keeps run
  · cases run

theorem run_startWith_of_started (started : h.broker.stage ≠ .idle) (config : InterpreterConfig)
    (hook : StartupHook) : (startWith config hook).run h = (.ok (.error .alreadyStarted), h) := by
  unfold startWith
  rw [run_get_bind, if_neg started]
  rfl

/-- On an idle host, to start and prepare is to start. -/
theorem startPrepared_of_idle (config : InterpreterConfig) (idle : h.broker.stage = .idle) :
    ((startPrepared config).run h).2 = ((startWith config Job.prepareHook).run h).2 ∧
      ∀ h', (startPrepared config).run h = (.ok (.ok ()), h') →
        (startWith config Job.prepareHook).run h = (.ok (.ok ()), h') := by
  unfold startPrepared
  rw [run_bind]
  rcases run : (startWith config Job.prepareHook).run h with ⟨p | e | ⟨⟩, h₁⟩
  · exact ⟨rfl, fun _ wrong => nomatch wrong⟩
  · cases e with
    | alreadyStarted => exact absurd idle (of_startWith_alreadyStarted run).1
    | _ => exact ⟨rfl, fun _ wrong => nomatch wrong⟩
  · exact ⟨rfl, fun h' same => by cases same; rfl⟩

/-- On a host whose owning thread has started, it is to prepare the interpreter in a job. -/
theorem startPrepared_of_started (config : InterpreterConfig) (started : h.broker.stage ≠ .idle) :
    ((startPrepared config).run h).2 = ((execSync (job Job.prepareHook)).run h).2 ∧
      ∀ h', (startPrepared config).run h = (.ok (.ok ()), h') →
        (execSync (job Job.prepareHook)).run h = (.ok (.ok (.ok ())), h') := by
  unfold startPrepared
  rw [run_bind_of_ok (run_startWith_of_started started config _)]
  dsimp only
  rw [run_bind]
  rcases run : (execSync (job Job.prepareHook)).run h with ⟨p | e | reason | ⟨⟩, h₁⟩
  · exact ⟨rfl, fun _ wrong => nomatch wrong⟩
  · exact ⟨rfl, fun _ wrong => nomatch wrong⟩
  · exact ⟨rfl, fun _ wrong => nomatch wrong⟩
  · exact ⟨rfl, fun h' same => by cases same; rfl⟩

/-- The configuration that the environment names is read without touching the broker; if it cannot be read
it is the default one. -/
theorem unconfigured_environmentConfig (h : Host) (unconfigured : h.Unconfigured) :
    (environmentConfig.run h).2.Unconfigured ∧ ∀ c h', environmentConfig.run h = (.ok c, h') →
      h'.broker.stage = h.broker.stage ∧ (c = {} ∨ h.surroundings.configuration = .ok c) := by
  unfold environmentConfig
  rw [run_get_bind]
  cases named : h.surroundings.configuration with
  | ok config =>
    refine ⟨unconfigured, fun c h' same => ?_⟩
    cases same
    exact ⟨rfl, .inr rfl⟩
  | error e =>
    dsimp only
    unfold warn
    rw [run_bind, run_job]
    generalize ExceptT.run (Job.warn _ none) h.owner = warned
    rcases warned with ⟨p | ⟨⟩, owner⟩
    · exact ⟨{ unconfigured with }, fun _ _ wrong => nomatch wrong⟩
    · refine ⟨{ unconfigured with }, fun c h' same => ?_⟩
      cases same
      exact ⟨rfl, .inl rfl⟩

theorem unconfigured_startWith (config : InterpreterConfig) (hook : StartupHook) :
    Keeps Host.Unconfigured True (startWith config hook) := by
  refine keeps_bind keeps_get fun h => ?_
  split
  · exact unconfigured_start config hook
  · exact keeps_pure _

/-- Inside a job the session does not start: it would have to wait for another job. -/
theorem run_startPrepared_inside (config : InterpreterConfig) (inside : h.insideJob = true)
    (started : h.broker.stage ≠ .idle) :
    (startPrepared config).run h = (.ok (.error .reentrant), h) := by
  unfold startPrepared
  rw [run_bind_of_ok (run_startWith_of_started started config _)]
  dsimp only
  rw [run_bind_of_ok (Process.run_execSync_inside _ inside)]
  rfl

theorem modest_environmentConfig : Modest environmentConfig := by
  intro h inside goes
  unfold environmentConfig
  rw [run_get_bind]
  cases h.surroundings.configuration with
  | ok c => exact .refl goes
  | error e =>
    refine modest_bind (modest_job fun d => ?_) (fun _ _ _ goes => ?_) h inside goes
    · exact Job.maintains_warn (Owner.settles_searchesIn d) _ _
    · exact .refl goes

/-- A job may be the first to ask for the session. -/
theorem modest_ensure : Modest ensure := by
  intro h inside goes
  unfold ensure
  rw [run_get_bind]
  split
  · refine modest_bind modest_environmentConfig (fun c h inside goes => ?_) h inside goes
    rw [run_bind_of_ok (run_startPrepared_inside _ inside goes.started)]
    exact .refl goes
  · exact .refl goes

end Action

end InterpreterHost
