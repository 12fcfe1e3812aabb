/-!
# Configuration

## Main definitions

* `Config` — the configuration of a host: how the interpreter starts, and where states keep temporary files
* `Config.development`, `Config.production` — presets
* `ConfigError` — why a configuration file was not used
-/

namespace InterpreterHost

/-- How the interpreter and the thread that owns it start. -/
structure InterpreterConfig where
  threadName : String := "pyhost-main"
  /-- The stack size of the owning thread in octets, or that of the platform. -/
  stackSize : Option Nat := some (8 * 1024 * 1024)
  installSignalHandlers : Bool := false
  /-- Directories that modules are searched in, besides those of the interpreter. -/
  searchPaths : List String := []
deriving DecidableEq, Repr, Inhabited

/-- How states are saved. -/
structure StateConfig where
  /-- The directory of temporary files, or that of the platform. -/
  tempDir : Option String := none
deriving DecidableEq, Repr, Inhabited

/-- The configuration of a host. -/
structure Config where
  interpreter : InterpreterConfig := {}
  state : StateConfig := {}
deriving DecidableEq, Repr, Inhabited

namespace Config

/-- Modules of the working directory can be imported. -/
def development : Config := { interpreter := { searchPaths := ["."] } }

/-- The owning thread has a larger stack. -/
def production : Config := { interpreter := { stackSize := some (16 * 1024 * 1024) } }

/-- With one more directory that modules are searched in. -/
def withSearchPath (c : Config) (path : String) : Config :=
  { c with interpreter := { c.interpreter with searchPaths := c.interpreter.searchPaths ++ [path] } }

end Config

/-- Why a configuration file was not used. -/
inductive ConfigError where
  | access (path reason : String)
  | invalid (path reason : String)
  | serialize (reason : String)
deriving DecidableEq, Repr

namespace ConfigError

/-- The error in words. -/
def message : ConfigError → String
  | access path reason => s!"cannot access config file '{path}': {reason}"
  | invalid path reason => s!"invalid config file '{path}': {reason}"
  | serialize reason => s!"cannot serialize config: {reason}"

/-- The words of the error within. -/
def source : ConfigError → String
  | access _ reason => reason
  | invalid _ reason => reason
  | serialize reason => reason

end ConfigError

end InterpreterHost
