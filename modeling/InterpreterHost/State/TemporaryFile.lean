import InterpreterHost.Host.Session
import InterpreterHost.State.Error

/-!
# Temporary files

A temporary file passes octets between a state and its object in the interpreter.

## Main definitions

* `TemporaryFile.create` — make one
* `TemporaryFile.remove`, `TemporaryFile.discard` — remove it, and say so if it is gone, or keep silent
-/

namespace InterpreterHost.TemporaryFile

/-- Make an empty file where the configuration says. -/
def create : Action (Except StateError String) := do
  let directory := (← Action.config).state.tempDir
  match (← get).surroundings.temporaryPath directory with
  | .error reason => return .error (.temporaryFile "create" reason)
  | .ok path =>
    Action.job do Job.setFiles fun files => files.insert path []
    return .ok path

/-- What is in the file, if it is there. -/
def content? (path : String) : Action (Option Octets) := return (← get).owner.interpreter.files.find? path

/-- What takes the octets that are written to a file, which is empty before. -/
def sink (path : String) : Action Sink := do
  let s := (← get).surroundings
  return { limit := s.temporaryLimit path, refusal := s.temporaryRefusal }

/-- Put octets into the file. -/
def write (path : String) (content : Octets) : Action Unit :=
  Action.job do Job.setFiles fun files => files.insert path content

/-- Remove the file if it is there. -/
def discard (path : String) : Action Unit := Action.job do Job.setFiles fun files => files.erase path

/-- Why there is nothing to remove. -/
def goneReason (path : String) : String := s!"{Config.noSuchFile} at path {Text.quote path}"

/-- Remove the file, which should be there. -/
def remove (path : String) : Action Unit := do
  match ← content? path with
  | some _ => discard path
  | none => Action.warn s!"cannot remove the temporary file: {goneReason path}" (some path)

end InterpreterHost.TemporaryFile
