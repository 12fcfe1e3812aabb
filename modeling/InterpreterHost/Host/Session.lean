import InterpreterHost.CallError
import InterpreterHost.Host.Execution
import InterpreterHost.Owner.Fetch

/-!
# The session with the interpreter

What is needed of the interpreter is looked up before the first call, and the configuration in force is kept.

## Main definitions

* `Action.startSession` — start with a configuration
* `Action.ensure` — make sure that calls can be made
* `Action.runCall` — run a named call as a job
* `Action.appendSearchPath` — add directories to the search path

## Design notes

Nobody has to start the session.  The first call starts it with the configuration that the environment names, and
panics if that fails, for without an interpreter no call can be made.
-/

namespace InterpreterHost

/-- The hook that looks up what is needed of the interpreter. -/
def Job.prepareHook : StartupHook := return (← prepare).map fun _ => ()

namespace Action

/-- Start the session with a configuration. -/
def startSession (config : Config) : Action (Except CallError Unit) := do
  if (← get).config.isSome then return .error (.broker .alreadyStarted)
  match ← startWith config.interpreter Job.prepareHook with
  | .error e => return .error (.broker e)
  | .ok () =>
    modify ({ · with config := some config })
    return .ok ()

/-- Whether there is a configuration in force. -/
def isInitialized : Action Bool := return (← get).config.isSome

/-- The configuration that the environment names, or the default one. -/
def environmentConfig : Action Config := do
  match (← get).surroundings.configuration with
  | .ok config => return config
  | .error e =>
    warn s!"ignoring configuration from the environment: {e.message}"
    return {}

/-- Start the owning thread and prepare the interpreter, or prepare it on the thread that has started. -/
def startPrepared (config : InterpreterConfig) : Action (Except BrokerError Unit) := do
  match ← startWith config Job.prepareHook with
  | .error .alreadyStarted =>
    match ← execSync (job Job.prepareHook) with
    | .ok (.ok ()) => return .ok ()
    | .ok (.error reason) => return .error (.initFailed reason)
    | .error e => return .error e
  | result => return result

/-- Make sure that calls can be made. -/
def ensure : Action Unit := do
  if (← get).config.isNone then
    let config ← environmentConfig
    match ← startPrepared config.interpreter with
    | .ok () => modify ({ · with config := some config })
    | .error e => throw ⟨s!"cannot start the python interpreter: {e.message}"⟩

/-- The configuration in force. -/
def config : Action Config := do
  ensure
  return (← get).config.getD {}

/-- Run the call of the given name as a job. -/
def runCall (name : String) (code : Job (Except CallError α)) : Action (Except CallError α) := do
  ensure
  match ← execSync (job code) with
  | .ok result => return result
  | .error e => return .error (.ofBroker name e)

/-- Add directories to the search path, as a job. -/
def appendPaths (paths : List String) : Action (Except BrokerError Unit) := do
  if paths.isEmpty then return .ok ()
  match ← execSync (job (Job.appendSearchPath paths)) with
  | .ok result => return result
  | .error e => return .error e

/-- Add directories to the search path. -/
def appendSearchPath (paths : List String) : Action (Except CallError Unit) := do
  ensure
  return (← appendPaths paths).mapError .broker

end Action

end InterpreterHost
