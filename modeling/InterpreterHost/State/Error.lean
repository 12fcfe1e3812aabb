import InterpreterHost.CallError
import InterpreterHost.State.Stream
import InterpreterHost.Text.Utf8

/-!
# Errors of states

## Main definitions

* `HeaderFault` — why octets are no header
* `StateError` — why an operation on a state failed
* `StateError.message` — the error in words
-/

namespace InterpreterHost

/-- Why octets are no header. -/
inductive HeaderFault where
  /-- The length of a text is not there. -/
  | noLength
  /-- The octets end before a text does. -/
  | noText
  | notUtf8 (f : Utf8.Fault)
deriving DecidableEq, Repr

/-- The fault in words. -/
def HeaderFault.message : HeaderFault → String
  | noLength => "io error: unexpected end of file"
  | noText => "io error: "
  | notUtf8 f => s!"string is not valid utf8: {f.message}"

/-- Why an operation on a state failed. -/
inductive StateError where
  | alreadyTerminated
  | missingParam (key : String)
  | invalidParam (key expected actual : String)
  | invalidBatchSize (n : Int)
  | invalidSaveResult (typeName : String)
  | unsupportedVersion (version : UInt8)
  | emptyHeader
  | truncatedHeader (expected : UInt32)
  | header (fault : HeaderFault)
  /-- What was being done (`action`) to a temporary file. -/
  | temporaryFile (action reason : String)
  | typeRegistered (name : String)
  | typeNotRegistered (name : String)
  | stateExists (name : String)
  | stateNotFound (name : String)
  | notModel (name : String)
  | notWritable
  /-- Reading or writing a stream failed. -/
  | stream (e : StreamError)
  | call (e : CallError)
deriving DecidableEq, Repr

/-- The error in words. -/
def StateError.message : StateError → String
  | alreadyTerminated => "pystate is already terminated"
  | missingParam key => s!"'{key}' parameter is missing"
  | invalidParam key expected actual => s!"'{key}' parameter must be {expected}, not {actual}"
  | invalidBatchSize n => s!"batch_train_size must be greater than 0, got {n}"
  | invalidSaveResult typeName => s!"save of the ML state must return a blob, got {typeName}"
  | unsupportedVersion version => s!"unsupported format version of pystate container: {version}"
  | emptyHeader => "size of the pystate header must be greater than 0"
  | truncatedHeader expected => s!"pystate header is truncated: expected {expected} bytes"
  | header fault => s!"invalid pystate header: {fault.message}"
  | temporaryFile action reason => s!"cannot {action} a temporary file: {reason}"
  | typeRegistered name => s!"'{name}' state type is already registered"
  | typeNotRegistered name => s!"'{name}' state type is not registered"
  | stateExists name => s!"state '{name}' already exists"
  | stateNotFound name => s!"state '{name}' is not found"
  | notModel name => "state '" ++ name ++ "' isn't an ML state"
  | notWritable => "state is not writable"
  | stream e => e.reason
  | call e => e.message

end InterpreterHost
