import InterpreterHost.Host

/-!
# Starting the owning thread and having jobs run on it

## Main definitions

* `Action.start` — start the owning thread
* `Action.exec` — queue a task
* `Action.execSync` — have a job run and wait for it
* `Action.terminate` — have all tasks run and end the interpreter

## Design notes

The owning thread starts by itself, with the default configuration, when the first job comes before anyone started
it.  It starts at most once: what failed to start may be started again, what has ended may not.
-/

namespace InterpreterHost

/-- The panic over a name that cannot be given to a thread, since it contains NUL. -/
def namePanic (name : String) : Panic :=
  let bytes := Utf8.encode name.toList
  let position := (bytes.takeWhile (· ≠ 0)).length
  let content := ", ".intercalate (bytes.map fun b => toString b.toNat)
  ⟨s!"thread name may not contain interior null bytes: NulError({position}, [{content}])"⟩

/-- The last that is heard of a process one of whose threads has run over its stack. -/
def overflowPanic (name : String) : Panic := ⟨s!"thread '{name}' has overflowed its stack"⟩

/-- Add directories to the search path of the interpreter. -/
def Job.appendSearchPath (paths : List String) : Job (Except BrokerError Unit) := do
  let o ← get
  let (searchPath, failure) := o.interpreter.searchPath.append paths
  set { o with interpreter := { o.interpreter with searchPath } }
  match failure with
  | none => return .ok ()
  | some reason => return .error (.searchPath reason)

/-- What prepares the interpreter before the first job; it fails with a reason. -/
abbrev StartupHook := Job (Except String Unit)

/-- What the owning thread does before it runs jobs. -/
def Job.startUp (paths : List String) (hook : StartupHook) : Job (Except BrokerError Unit) := do
  match ← appendSearchPath paths with
  | .error e => return .error e
  | .ok () =>
    match ← tryCatch hook fun p => return .error p.message with
    | .ok () => return .ok ()
    | .error reason => return .error (.initFailed reason)

namespace Action

/-- Put a new interpreter in the place of the one before. -/
def freshInterpreter : Action Unit :=
  modify fun h => { h with owner := {
    library := h.surroundings.library
    interpreter := h.surroundings.interpreter
    log := h.owner.log
    panicOnWarning := h.owner.panicOnWarning } }

/-- Have the owning thread start the interpreter, as it does where the stack of the thread holds. -/
def startOwner (config : InterpreterConfig) (hook : StartupHook) : Action (Except BrokerError Unit) := do
  freshInterpreter
  match ← job (Job.startUp config.searchPaths hook) with
  | .error e => return .error e
  | .ok () =>
    modify fun h => { h with
      broker := { h.broker with stage := .running }
      threadName := config.threadName }
    return .ok ()

/-- Start the owning thread, which has not started. -/
def start (config : InterpreterConfig) (hook : StartupHook) : Action (Except BrokerError Unit) := do
  if config.threadName.toList.contains '\x00' then throw (namePanic config.threadName)
  let h ← get
  match h.surroundings.stackFate config.stackSize, h.hasForeignInterpreter with
  | .refused reason, _ => return .error (.spawn reason)
  | _, true => return .error .alreadyInitialized
  | .overflows, false =>
    modify ({ · with isKilled := true })
    throw (overflowPanic config.threadName)
  | .holds, false => startOwner config hook

/-- A hook that has nothing to prepare. -/
def noHook : StartupHook := return .ok ()

/-- Start the owning thread, unless it has started. -/
def startWith (config : InterpreterConfig) (hook : StartupHook) : Action (Except BrokerError Unit) := do
  if (← get).broker.stage = .idle then start config hook else return .error .alreadyStarted

/-- Make sure that the owning thread has started. -/
def ensureStarted : Action Unit := do
  if (← get).broker.stage = .idle then
    if let .error e ← start {} noHook then
      throw ⟨s!"cannot start the python main thread: {e.message}"⟩

/-- Whether the owning thread has started and not ended. -/
def isRunning : Action Bool := return (← get).broker.stage = .running

/-- Queue a task. -/
def exec (task : Task) : Action (Except BrokerError Unit) := do
  ensureStarted
  let h ← get
  match h.broker.submit task with
  | .error e => return .error e
  | .ok broker =>
    set { h with broker }
    return .ok ()

/-- Let the owning thread run all tasks that are queued. -/
def drain : Action Unit :=
  modify fun h =>
    let (broker, owner) := h.broker.drain h.owner
    { h with broker, owner }

/-- Run code as a job that was accepted and whose turn it is. -/
def runAccepted (code : Action α) : Action (Except BrokerError α) := do
  modify ({ · with insideJob := true })
  let outcome ← observe code
  let panicked := match outcome with
    | .ok _ => false
    | .error _ => true
  modify fun h => { h with insideJob := false, broker := h.broker.finish panicked }
  return outcome.mapError fun p => .jobPanicked p.message

/-- Have a job run after all that was accepted before it, and wait for its result. -/
def execSync (code : Action α) : Action (Except BrokerError α) := do
  if (← get).insideJob then return .error .reentrant
  ensureStarted
  let h ← get
  match h.broker.accept with
  | .error e => return .error e
  | .ok broker =>
    set { h with broker }
    drain
    runAccepted code

/-- Accept no more jobs, have those that were accepted run and end the interpreter. -/
def terminate : Action (Except BrokerError Unit) := do
  let h ← get
  if h.broker.stage = .idle then return .ok ()
  if h.insideJob then return .error .reentrant
  if h.broker.stage = .running then
    set { h with broker := h.broker.close }
    drain
  return .ok ()

end Action

end InterpreterHost
