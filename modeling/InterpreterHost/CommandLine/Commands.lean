import InterpreterHost.Call.Module
import InterpreterHost.CommandLine.Arguments
import InterpreterHost.CommandLine.Options

/-!
# Commands

## Main definitions

* `Command.value` — run a command
* `Options.run` — start the interpreter, run the command and end the interpreter
* `outcome` — what a command line comes to

## Design notes

Nothing of a command line is looked at before the interpreter runs, not even whether arguments are JSON; so a
fault of the configuration is reported rather than one of the arguments.
-/

namespace InterpreterHost.CommandLine

/-! ## Failures -/

namespace Failure

/-- The failure of a call. -/
def ofCall (e : CallError) : Failure := ⟨e.message, e.sources⟩

/-- A failure, and what failed because of it. -/
def within (what : String) (f : Failure) : Failure := ⟨what, f.message :: f.causes⟩

def ofConfig (e : ConfigError) : Failure := ⟨e.message, [e.source]⟩

/-- A text with blanks in front of all of its lines but the first. -/
def hanging (blanks : String) (text : String) : String := ("\n" ++ blanks).intercalate (text.splitOn "\n")

/-- A cause with its number among several. -/
def numbered (cause : String) (n : Nat) : String :=
  let number := toString n
  String.ofList (List.replicate (5 - number.length) ' ') ++ number ++ ": " ++ hanging "       " cause

/-- The failure as it is reported. -/
def text (f : Failure) : String :=
  "Error: " ++ f.message ++
    match f.causes with
    | [] => ""
    | [cause] => "\n\nCaused by:\n    " ++ hanging "    " cause
    | causes => "\n\nCaused by:\n" ++ "\n".intercalate (causes.zipIdx.map fun (cause, n) => numbered cause n)

end Failure

/-! ## Commands -/

/-- What a command does. -/
abbrev Step := ExceptT Failure Action

/-- A call that may fail. -/
def attempt (code : Action (Except CallError α)) : Step α := ExceptT.mk (return (← code).mapError Failure.ofCall)

/-- A call that may fail, and `what` with it. -/
def attemptFor (what : String) (code : Action (Except CallError α)) : Step α :=
  ExceptT.mk (return (← code).mapError fun e => (Failure.ofCall e).within what)

/-- Call a function of a module. -/
def callFunction (moduleName functionName : String) (args : List String) : Step Value := do
  let args ← parseValues args
  let m ← attempt (Module.load moduleName)
  m.handle.dropping (attemptFor s!"{moduleName}.{functionName} failed" (m.call functionName args))

/-- Call a method of a new instance of a class. -/
def invokeMethod (moduleName className method : String) (init kwargs : Option String) (args : List String) :
    Step Value := do
  let init ← parseArray init "--init"
  let kwargs ← parseMap kwargs "--kwargs"
  let args ← parseValues args
  let m ← attempt (Module.load moduleName)
  m.handle.dropping do
    let made ← attemptFor s!"cannot construct {moduleName}.{className}" (m.newInstance className init)
    made.handle.dropping (attemptFor s!"{made.origin}.{method} failed" (made.call method args kwargs))

/-- A document as it is after the interpreter has copied it. -/
def copyDocument (text : String) : Step Value := do
  let v ← (Value.parseJson text).mapError fun e => Failure.mk "input is not valid JSON" [e.message]
  let m ← attempt (Module.load "copy")
  m.handle.dropping (attempt (m.call "deepcopy" [v]))

/-- Run a command. -/
def Command.value : Command → Step Value
  | call moduleName functionName args => callFunction moduleName functionName args
  | invoke moduleName className method init kwargs args => invokeMethod moduleName className method init kwargs args
  | evalJson text => copyDocument text

/-- The configuration with the directories of the command line. -/
def Options.extend (o : Options) (c : Config) : Config := o.paths.foldl Config.withSearchPath c

/-- Start the interpreter with a configuration, run the command and end the interpreter. -/
def Options.run (o : Options) (configuration : Except ConfigError Config) : Step Value := do
  let config ← configuration.mapError Failure.ofConfig
  attemptFor "cannot start the python interpreter" (Action.startSession (o.extend config))
  let result ← ExceptT.lift o.command.value.run
  attempt (return (← Action.terminate).mapError .broker)
  liftExcept result

/-! ## What a command line comes to -/

/-- What the program leaves behind: its exit code, and what it wrote. -/
structure Outcome where
  code : Nat
  output : String := ""
  errors : String := ""
deriving DecidableEq, Repr

def versionText : String := "pyhost 0.1.0\n"

def usageText : String :=
  "Usage: pyhost [OPTIONS] <COMMAND>\n\nCommands:\n" ++
    "  call <MODULE> <FUNCTION> [ARGS]...\n" ++
    "  invoke [--init <INIT>] [--kwargs <KWARGS>] <MODULE> <CLASS> <METHOD> [ARGS]...\n" ++
    "  eval-json <JSON>\n\nOptions:\n" ++
    "  --config <CONFIG>\n  -p, --path <PATHS>\n  -v, --verbose\n  -h, --help\n  -V, --version\n"

/-- What comes of a command line without a command. -/
def Stop.outcome : Stop → Outcome
  | misuse => ⟨2, "", usageText⟩
  | version => ⟨0, versionText, ""⟩
  | help => ⟨0, usageText, ""⟩

/-- The file that the configuration is read from: the one that the options name, or that of the environment. -/
def Options.configuration (o : Options) (environment : Option String) (read : String → Config.FileContent) :
    Except ConfigError Config :=
  match o.config with
  | some path => Config.ofFile path (read path)
  | none => Config.ofEnvironment environment read

/-- What running a command comes to. -/
def Options.outcome (o : Options) (configuration : Except ConfigError Config) (host : Host) : Outcome :=
  match ((o.run configuration).run.run host).1 with
  | .ok (.ok v) => ⟨0, v.jsonText ++ "\n", ""⟩
  | .ok (.error f) => ⟨1, "", f.text ++ "\n"⟩
  | .error p => ⟨101, "", p.message ++ "\n"⟩

/-- What a command line comes to. -/
def outcome (texts : List String) (environment : Option String) (read : String → Config.FileContent)
    (host : Host) : Outcome :=
  match Options.ofTexts texts with
  | .error stop => stop.outcome
  | .ok o => o.outcome (o.configuration environment read) host

end InterpreterHost.CommandLine
