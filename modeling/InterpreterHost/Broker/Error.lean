/-!
# Errors of the broker

## Main definitions

* `BrokerError` — why the owning thread did not start, or did not run a job
* `BrokerError.message` — the error in words
-/

namespace InterpreterHost

/-- Why the owning thread did not start, or did not run a job. -/
inductive BrokerError where
  | alreadyStarted
  | alreadyInitialized
  | spawn (reason : String)
  | initFailed (reason : String)
  | terminated
  | reentrant
  | jobPanicked (message : String)
  | searchPath (reason : String)
deriving DecidableEq, Repr, Inhabited

/-- The error in words. -/
def BrokerError.message : BrokerError → String
  | alreadyStarted => "the python main thread has already been started"
  | alreadyInitialized => "the python interpreter was initialized outside of the main thread"
  | spawn reason => s!"cannot spawn the python main thread: {reason}"
  | initFailed reason => s!"cannot initialize the python interpreter: {reason}"
  | terminated => "the python main thread has been terminated"
  | reentrant => "cannot wait for a job from inside another job on the python main thread"
  | jobPanicked message => s!"job panicked: {message}"
  | searchPath reason => s!"cannot update sys.path: {reason}"

end InterpreterHost
