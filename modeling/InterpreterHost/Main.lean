import InterpreterHost.CommandLine.Commands
import InterpreterHost.Library.Builtins

/-!
# The program

Reads the file of the configuration and the environment, runs the command and writes what it comes to.
-/

namespace InterpreterHost

/-- What the system says when a file cannot be read. -/
def accessReason : IO.Error → String
  | .noFileOrDirectory .. => Config.noSuchFile
  | .permissionDenied .. => "Permission denied (os error 13)"
  | .inappropriateType .. => "Is a directory (os error 21)"
  | e => toString e

/-- What is in a file. -/
def readContent (path : String) : IO Config.FileContent := do
  try
    return .ok (← IO.FS.readBinFile path).toList
  catch e => return .error (accessReason e)

/-- A process in which nothing has been started yet. -/
def freshHost : Host := { surroundings := { library := Library.builtinModules } }

end InterpreterHost

open InterpreterHost

def main (args : List String) : IO UInt32 := do
  let environment ← IO.getEnv "PYHOST_CONFIG"
  let named := match CommandLine.Options.ofTexts args with
    | .ok o => o.config <|> environment
    | .error _ => none
  let content ← readContent (named.getD "")
  let outcome := CommandLine.outcome args environment (fun _ => content) freshHost
  IO.print outcome.output
  IO.eprint outcome.errors
  return outcome.code.toUInt32
