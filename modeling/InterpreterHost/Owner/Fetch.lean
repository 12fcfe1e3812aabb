import InterpreterHost.ExceptionReport
import InterpreterHost.Owner.Job

/-!
# Exceptions taken over by the host

The host takes a pending exception away and keeps a report of it, which the interpreter's own formatter writes.

## Main definitions

* `Job.prepare` — look up what the host needs of the interpreter
* `Job.fetch` — take the pending exception away and report it
* `Job.checked`, `Job.checkedCall` — run code of the interpreter, or report the exception that it raised

## Design notes

That memory ran out is not reported: to format it would take memory.  That exception stays pending.
-/

namespace InterpreterHost.Job

/-- Look up what the host needs of the interpreter, unless that is done. -/
def prepare : Job (Except String Formatter) := do
  let o ← get
  match o.formatter with
  | some formatter => return .ok formatter
  | none =>
    let services := o.interpreter.services
    if ¬ services.datetime ∧ ¬ o.datesReady then
      clearPending
      return .error "cannot import the datetime C API"
    else
      modify fun o => { o with datesReady := true }
      if ¬ services.traceback then
        clearPending
        return .error "cannot import the traceback module"
      else match services.formatter with
        | none =>
          clearPending
          return .error "traceback.format_exception is missing"
        | some formatter =>
          modify fun o => { o with formatter := some formatter }
          return .ok formatter

/-- The entries of a formatted exception, as texts of the host. -/
def formattedBy (formatter : Formatter) (e : Raised) : Job (Option (List String)) := do
  let failed : Job (Option (List String)) := do
    clearPending
    warn "traceback.format_exception failed"
    return none
  match formatter with
  | .standard => if e.formattable then return e.entries.mapM CodePoints.toString? else failed
  | .raising => failed
  | .empty => return some []
  | .tuple => return none
  | .number => return none
  | .surrogate => return none

/-- The entries of a formatted exception, if there is a formatter that can write them. -/
def formatted (e : Raised) : Job (Option (List String)) := do
  match ← prepare with
  | .ok formatter => formattedBy formatter e
  | .error why =>
    warn s!"traceback formatter unavailable: {why}"
    return none

/-- Have an exception formatted whose report nobody wants.  Where that fails its message is asked for. -/
def discard (e : Raised) : Job Unit := do
  if ¬ e.thrown.exceptionClass.isMemoryError then
    if (← formatted e).isNone then
      if let some message := e.thrown.message then
        if message.toString?.isNone then
          let _ ← formatted (.unencodable message)

/-- Ask for the message of an exception.  What that raises is taken over as well, and nobody wants the report. -/
def askMessage (e : Raised) : Job Unit := do
  match e.thrown.message with
  | some message => if message.toString?.isNone then discard (.unencodable message)
  | none => discard e.complaint

/-- The report of an exception that was taken away. -/
def report (e : Raised) : Job ExceptionReport := do
  match ← formatted e with
  | some entries => return .ofFormatted entries e.thrown.exceptionClass.isSyntaxError
  | none =>
    askMessage e
    return .ofMain e.shortText

/-- Take the pending exception away and report it. -/
def fetch : Job InterpreterError := do
  match (← get).pending with
  | none => return .exception (.ofMain "SystemError: error return without exception set")
  | some e =>
    if e.thrown.exceptionClass.isMemoryError then return .noMemory
    else
      clearPending
      return .exception (← report e)

/-- The result of code of the interpreter, or the report of the exception that it raised. -/
def checked (code : Computation α) : Job (Except InterpreterError α) := do
  match ← evaluate code with
  | some result => return .ok result
  | none => return .error (← fetch)

/-- The result of a call, or the report of the exception that it raised. -/
def checkedCall (code : Computation Ref) : Job (Except InterpreterError Ref) := do
  match ← evaluateCall code with
  | some result => return .ok result
  | none => return .error (← fetch)

end InterpreterHost.Job
