import InterpreterHost.Broker.Error
import InterpreterHost.ExceptionReport
import InterpreterHost.Value

/-!
# Errors of calls

An error of a call names, from the outside in, what was being done to which thing.

## Main definitions

* `CallError` — why a call failed
* `CallError.message` — the error in words
* `CallError.root`, `CallError.contexts` — the innermost error, and the contexts around it
* `CallError.sources` — the words of the errors within, outermost first
-/

namespace InterpreterHost

/-- Why a call failed. -/
inductive CallError where
  | broker (e : BrokerError)
  | interpreter (e : InterpreterError)
  | unsupportedType (typeName : String)
  /-- What was being done (`action`) to what `kind` of thing of which `name`. -/
  | context (action kind name : String) (source : CallError)
  | panic (name message : String)
  | notCallable (name : String)
  | released (name : String)
  | alreadyRegistered (name : String)
  | notRegistered (name : String)
  | value (e : ValueError)
deriving DecidableEq, Repr, Inhabited

namespace CallError

/-- The error in words. -/
def message : CallError → String
  | broker e => e.message
  | interpreter e => e.message
  | unsupportedType typeName => s!"unsupported type in pyhost: {typeName}"
  | context action kind name source => s!"fail to {action} '{name}' {kind}: {source.message}"
  | panic name text => s!"cannot call '{name}' due to panic: {text}"
  | notCallable name => s!"'{name}' is not callable object"
  | released name => s!"'{name}' has already been released"
  | alreadyRegistered name => s!"'{name}' is already registered"
  | notRegistered name => s!"'{name}' is not registered"
  | value e => e.message

/-- The innermost error. -/
def root : CallError → CallError
  | context _ _ _ source => source.root
  | e => e

/-- The contexts around the innermost error, outermost first. -/
def contexts : CallError → List (String × String × String)
  | context action kind name source => (action, kind, name) :: source.contexts
  | _ => []

/-- The words of the errors within, outermost first. -/
def sources : CallError → List String
  | context _ _ _ source => source.message :: source.sources
  | _ => []

/-- The exception behind the error, if there is one. -/
def exception? (e : CallError) : Option ExceptionReport :=
  match e.root with
  | interpreter (.exception report) => some report
  | _ => none

/-- An error of the broker while a named call ran; a panic becomes that of the call. -/
def ofBroker (name : String) : BrokerError → CallError
  | .jobPanicked message => panic name message
  | e => broker e

end CallError

end InterpreterHost
