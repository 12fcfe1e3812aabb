import InterpreterHost.Broker
import InterpreterHost.Config.File
import InterpreterHost.State.Stream

/-!
# The host

What a process that uses the interpreter keeps, and the actions of its threads.

## Main definitions

* `StackFate` — what becomes of a thread that asks for a stack of some size
* `Surroundings` — what the process is given from outside
* `Host` — what the process keeps
* `Action` — what a thread does: it gives a result or panics

## Design notes

An action runs on a thread of the process, or on the owning thread as part of a job that someone waits for;
`Host.insideJob` tells which.  What a job does to the interpreter is a `Job` and is brought into an action by
`Action.job`.
-/

namespace InterpreterHost

/-- What becomes of a thread that asks for a stack of some size. -/
inductive StackFate where
  /-- The system gives no such stack. -/
  | refused (reason : String)
  /-- The interpreter cannot start within the stack; that it runs over ends the process. -/
  | overflows
  /-- The interpreter can start within the stack. -/
  | holds
deriving DecidableEq, Repr, Inhabited

/-- What becomes of a thread on a common system.  The stack and the page that guards it must fit into the address
space, and into memory that the system is ready to promise; the smallest stacks are too small for the
interpreter. -/
def StackFate.ofSize : Option Nat → StackFate
  | none => holds
  | some size =>
    if 0x10000000000000000 ≤ size - size % 64 + 4096 then refused "Invalid argument (os error 22)"
    else if 0x10000000000 ≤ size then refused "Resource temporarily unavailable (os error 11)"
    else if size < 0x8000 then overflows
    else holds

/-- What the process is given from outside. -/
structure Surroundings where
  /-- The modules that the interpreter can import. -/
  library : Library := []
  /-- The interpreter when it has just started. -/
  interpreter : Interpreter := {}
  /-- The configuration that the environment names. -/
  configuration : Except ConfigError Config := .ok {}
  /-- A path for a temporary file in the given directory or in that of the platform, or why there is none. -/
  temporaryPath : Option String → Except String String := fun
    | some directory => .ok (directory ++ "/pyhost_state")
    | none => .ok "/tmp/pyhost_state"
  /-- How many octets the temporary file with a path can hold, if not any number. -/
  temporaryLimit : String → Option Nat := fun _ => none
  /-- What is reported when a temporary file can hold no more. -/
  temporaryRefusal : StreamError := "No space left on device (os error 28)"
  /-- What becomes of a thread with a stack of a size, or of the size that threads have if none is asked for. -/
  stackFate : Option Nat → StackFate := StackFate.ofSize

/-- What the process keeps. -/
structure Host where
  surroundings : Surroundings := {}
  owner : Owner := {}
  broker : Broker := {}
  /-- The name of the owning thread. -/
  threadName : String := ""
  /-- The configuration in force, once there is one. -/
  config : Option Config := none
  /-- Whether the code that runs is part of a job. -/
  insideJob : Bool := false
  /-- Whether something else in the process has started an interpreter. -/
  hasForeignInterpreter : Bool := false
  /-- Whether the process was ended by the system. -/
  isKilled : Bool := false

/-- What a thread does. -/
abbrev Action := ExceptT Panic (StateM Host)

namespace Action

/-- Run a job here and now. -/
def job (code : Job α) : Action α := do
  let h ← get
  match code.run h.owner with
  | (.ok a, owner) =>
    set { h with owner }
    return a
  | (.error p, owner) =>
    set { h with owner }
    throw p

/-- Run code that needs the interpreter, if this is part of a job. -/
def whileOwning (code : Job α) : Action (Option α) := do
  if (← get).insideJob then return some (← job code) else return none

/-- Log a warning. -/
def warn (message : String) (path : Option String := none) : Action Unit := job (Job.warn message path)

/-- Run an action and tell its panic from its result. -/
def observe (code : Action α) : Action (Except Panic α) :=
  tryCatch (return .ok (← code)) fun p => return .error p

end Action

end InterpreterHost
