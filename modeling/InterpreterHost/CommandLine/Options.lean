/-!
# Options

What a command line asks for.

## Main definitions

* `Command` — what is to be done
* `Options` — a command, and how the interpreter is started for it
* `Options.ofTexts` — what the texts of a command line ask for

## Design notes

The texts are read from left to right and the first one that makes no sense ends that.  A command line has two
levels, what stands before the name of the command and what stands after it.  The switches about the interpreter
may stand on both; what the second level says about one of them counts.
-/

namespace InterpreterHost.CommandLine

/-- What is to be done; arguments are still the texts that were given. -/
inductive Command where
  | call (moduleName functionName : String) (args : List String)
  | invoke (moduleName className method : String) (init kwargs : Option String) (args : List String)
  | evalJson (text : String)
deriving DecidableEq, Repr

/-- A command, and how the interpreter is started for it. -/
structure Options where
  /-- The file of the configuration. -/
  config : Option String
  /-- Directories to search modules in. -/
  paths : List String
  /-- How often it was asked to be verbose. -/
  verbose : Nat
  command : Command
deriving DecidableEq, Repr

/-- Why there is no command to be run. -/
inductive Stop where
  /-- The command line makes no sense. -/
  | misuse
  | version
  | help
deriving DecidableEq, Repr

/-- The part of a command line that a text stands in: before the command, or after the one named. -/
inductive Level where
  | top
  | call
  | invoke
  | evalJson
deriving DecidableEq, Repr

/-- What a text that begins with a dash stands for. -/
inductive Switch where
  | config
  | path
  | init
  | kwargs
  | verbose
  | version
  | help
deriving DecidableEq, Repr

/-- Whether a text belongs to the switch. -/
def Switch.takesText : Switch → Bool
  | config => true
  | path => true
  | init => true
  | kwargs => true
  | _ => false

namespace Level

/-- The level of a command. -/
def ofName? : String → Option Level
  | "call" => some call
  | "invoke" => some invoke
  | "eval-json" => some evalJson
  | _ => none

/-- The switch of a name. -/
def named? (l : Level) (name : String) : Option Switch :=
  match name, l with
  | "config", _ => some .config
  | "path", _ => some .path
  | "verbose", _ => some .verbose
  | "help", _ => some .help
  | "version", top => some .version
  | "init", invoke => some .init
  | "kwargs", invoke => some .kwargs
  | _, _ => none

/-- The switch of a letter. -/
def lettered? (l : Level) (letter : Char) : Option Switch :=
  match letter, l with
  | 'p', _ => some .path
  | 'v', _ => some .verbose
  | 'h', _ => some .help
  | 'V', top => some .version
  | _, _ => none

end Level

/-- What was read on a level. -/
structure Given where
  config : Option String := none
  paths : List String := []
  verbose : Nat := 0
  init : Option String := none
  kwargs : Option String := none
  /-- The texts that belong to no switch. -/
  texts : List String := []
deriving DecidableEq, Repr

namespace Given

/-- A switch with its text.  Only directories may be given more than once, and no name of a file is empty. -/
def put (g : Given) (s : Switch) (text : String) : Except Stop Given :=
  match s with
  | .config => if text = "" ∨ g.config.isSome then .error .misuse else .ok { g with config := some text }
  | .path => if text = "" then .error .misuse else .ok { g with paths := g.paths ++ [text] }
  | .init => if g.init.isSome then .error .misuse else .ok { g with init := some text }
  | .kwargs => if g.kwargs.isSome then .error .misuse else .ok { g with kwargs := some text }
  | _ => .error .misuse

/-- A switch that takes no text. -/
def flag (g : Given) : Switch → Except Stop Given
  | .verbose => .ok { g with verbose := g.verbose + 1 }
  | .version => .error .version
  | .help => .error .help
  | _ => .error .misuse

/-- A text that belongs to no switch. -/
def add (g : Given) (l : Level) (text : String) : Except Stop Given :=
  if l = .evalJson ∧ ¬ g.texts.isEmpty then .error .misuse else .ok { g with texts := g.texts ++ [text] }

end Given

/-! ## Texts with a dash -/

/-- What a text is by its first characters. -/
inductive Form where
  | plain
  /-- After this all texts are plain. -/
  | separator
  | name (rest : List Char)
  | letters (rest : List Char)
deriving DecidableEq, Repr

/-- The form of a text; one dash alone is plain. -/
def Form.of (text : String) : Form :=
  match text.toList with
  | ['-', '-'] => separator
  | '-' :: '-' :: rest => name rest
  | ['-'] => plain
  | '-' :: rest => letters rest
  | _ => plain

/-- A switch by its name, its text after an equals sign or still to come. -/
def readName (l : Level) (g : Given) (rest : List Char) : Except Stop (Given × Option Switch) := do
  let name := rest.takeWhile (· ≠ '=')
  match l.named? (String.ofList name), rest.drop name.length with
  | none, _ => throw .misuse
  | some s, _ :: text => return (← g.put s (String.ofList text), none)
  | some s, [] => if s.takesText then return (g, some s) else return (← g.flag s, none)

/-- Switches by their letters.  The text of one comes after its letter, or is still to come. -/
def readLetters (l : Level) (g : Given) : List Char → Except Stop (Given × Option Switch)
  | [] => .ok (g, none)
  | letter :: rest => do
    match l.lettered? letter with
    | none => throw .misuse
    | some s =>
      if s.takesText then
        match rest with
        | [] => return (g, some s)
        | '=' :: text => return (← g.put s (String.ofList text), none)
        | text => return (← g.put s (String.ofList text), none)
      else readLetters l (← g.flag s) rest

/-! ## Levels -/

/-- Read what stands before the command; its name is the first plain text. -/
def readTop (g : Given) (awaiting : Option Switch) : List String → Except Stop (Given × String × List String)
  | [] => .error .misuse
  | text :: rest => do
    match Form.of text, awaiting with
    | .plain, some s => readTop (← g.put s text) none rest
    | .plain, none => return (g, text, rest)
    | .name cs, none =>
      let (g, s) ← readName .top g cs
      readTop g s rest
    | .letters cs, none =>
      let (g, s) ← readLetters .top g cs
      readTop g s rest
    | _, _ => throw .misuse

/-- Read what stands after the name of the command. -/
def readLevel (l : Level) (g : Given) (awaiting : Option Switch) : List String → Except Stop Given
  | [] => if awaiting.isNone then .ok g else .error .misuse
  | text :: rest => do
    match Form.of text, awaiting with
    | .plain, some s => readLevel l (← g.put s text) none rest
    | .plain, none => readLevel l (← g.add l text) none rest
    | .separator, none => rest.foldlM (fun g text => g.add l text) g
    | .name cs, none =>
      let (g, s) ← readName l g cs
      readLevel l g s rest
    | .letters cs, none =>
      let (g, s) ← readLetters l g cs
      readLevel l g s rest
    | _, some _ => throw .misuse

/-- The command of a level. -/
def Command.ofGiven (l : Level) (g : Given) : Except Stop Command :=
  match l, g.texts with
  | .call, m :: f :: args => .ok (.call m f args)
  | .invoke, m :: c :: method :: args => .ok (.invoke m c method g.init g.kwargs args)
  | .evalJson, [text] => .ok (.evalJson text)
  | _, _ => .error .misuse

/-- Why there is nothing to run when the name of the command is none of those that run something. -/
def stopAt (name : String) (rest : List String) : Stop :=
  match name, rest with
  | "help", [] => .help
  | "help", [about] => if about = "help" ∨ (Level.ofName? about).isSome then .help else .misuse
  | _, _ => .misuse

/-- What the texts of a command line ask for. -/
def Options.ofTexts (texts : List String) : Except Stop Options := do
  let (before, name, rest) ← readTop {} none texts
  match Level.ofName? name with
  | none => throw (stopAt name rest)
  | some l =>
    let after ← readLevel l {} none rest
    return {
      config := after.config <|> before.config
      paths := if after.paths.isEmpty then before.paths else after.paths
      verbose := if after.verbose = 0 then before.verbose else after.verbose
      command := ← Command.ofGiven l after }

end InterpreterHost.CommandLine
