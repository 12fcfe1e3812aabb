import InterpreterHost.Interpreter.Finalizer
import InterpreterHost.Interpreter.Import

/-!
# Jobs on the owning thread

One thread owns the interpreter.  Jobs run on it one at a time and are all that ever touches the interpreter.

## Main definitions

* `Owner` — what the owning thread has
* `Job` — what runs on it: it gives a result or panics
* `Job.evaluate` — run code of the interpreter; an exception that it raises is pending afterwards
* `Job.warn` — log a warning

## Design notes

The exception that is pending is a part of `Owner` and not of the result of a job.  Whoever runs code of the
interpreter has to look whether it left one and to take it away; a job that does not, or that panics before it
does, leaves it to the next one.
-/

namespace InterpreterHost

/-- One record of the log. -/
inductive LogRecord where
  /-- A warning, and the file that it is about if there is one. -/
  | warning (message : String) (path : Option String)
  /-- A batch was fitted: the mean loss and accuracy of its rows, and the class of the model. -/
  | fitted (loss accuracy : Binary64) (className : String)
  /-- Something that a job wants to be known. -/
  | note (message : String)
deriving DecidableEq, Repr

/-- The message that a job panicked with. -/
structure Panic where
  message : String
deriving DecidableEq, Repr, Inhabited

/-- The panic with a payload, which says what went wrong if it is a text. -/
def Panic.ofPayload (text : Option String) : Panic := ⟨text.getD "unknown panic payload"⟩

/-- What the owning thread has. -/
structure Owner where
  library : Library := []
  interpreter : Interpreter := {}
  /-- The exception that is set and that nobody has taken away. -/
  pending : Option Raised := none
  /-- The formatter of tracebacks, once it was looked up. -/
  formatter : Option Formatter := none
  /-- Whether objects for dates can be made and read. -/
  datesReady : Bool := false
  log : List LogRecord := []
  /-- The message of the panic that the next warning causes which a job logs. -/
  panicOnWarning : Option String := none
deriving Inhabited

/-- What jobs wanted to be known after the first `n` records of the log. -/
def Owner.notes (o : Owner) (n : Nat) : List String :=
  (o.log.drop n).filterMap fun
    | .note message => some message
    | _ => none

/-- What runs on the owning thread. -/
abbrev Job := ExceptT Panic (StateM Owner)

namespace Job

/-- Log a warning. -/
def warn (message : String) (path : Option String := none) : Job Unit := do
  let o ← get
  set { o with log := o.log ++ [LogRecord.warning message path], panicOnWarning := none }
  match o.panicOnWarning with
  | some text => throw ⟨text⟩
  | none => return

def note (message : String) : Job Unit := modify fun o => { o with log := o.log ++ [LogRecord.note message] }

/-- Log what fitting a batch came to. -/
def noteFitted (loss accuracy : Binary64) (className : String) : Job Unit :=
  modify fun o => { o with log := o.log ++ [LogRecord.fitted loss accuracy className] }

def clearPending : Job Unit := modify fun o => { o with pending := none }

/-- Run code of the interpreter.  There is no result if it raised an exception, which is pending then. -/
def evaluate (code : Computation α) : Job (Option α) := do
  let o ← get
  match code.run o.interpreter with
  | (.ok result, interpreter) =>
    set { o with interpreter }
    return some result
  | (.error e, interpreter) =>
    set { o with interpreter, pending := some e }
    return none

/-- What a call raises that gives a result although an exception is pending. -/
def resultWithException (e : Raised) : Raised :=
  { thrown := { exceptionClass := { name := "SystemError" }
                message := some (.ofString "call returned a result with an exception set") }
    earlier := (.cause, e.thrown) :: e.earlier }

/-- Run code of the interpreter that is a call.  The interpreter refuses a result that comes while an exception
is pending. -/
def evaluateCall (code : Computation Ref) : Job (Option Ref) := do
  let before := (← get).pending
  match ← evaluate code, before with
  | some r, some e =>
    let _ ← evaluate (Computation.release r)
    modify fun o => { o with pending := some (resultWithException e) }
    return none
  | result, _ => return result

/-- Change the interpreter without running code in it. -/
def change (f : Interpreter → Interpreter) : Job Unit := modify fun o => { o with interpreter := f o.interpreter }

/-- Give up references. -/
def releaseAll (refs : List Ref) : Job Unit := change fun i => { i with heap := i.heap.releaseAll refs }

def release (r : Ref) : Job Unit := releaseAll [r]

/-- Give up references; the objects that go are finalized. -/
def letGo (refs : List Ref) : Job Unit := modify fun o => { o with interpreter := o.library.letGo o.interpreter refs }

def retain (r : Ref) : Job Unit := change fun i => { i with heap := i.heap.retain r }

/-- Change the files within reach. -/
def setFiles (f : Entries Octets → Entries Octets) : Job Unit := change fun i => { i with files := f i.files }

def heap : Job Heap := return (← get).interpreter.heap

end Job

end InterpreterHost
