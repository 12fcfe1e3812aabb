import InterpreterHost.Value.Json

/-!
# Arguments from texts

Texts of a command line as arguments of a call.

## Main definitions

* `CommandLine.Failure` — an error message with its causes
* `CommandLine.parseValues` — each text as a JSON document
* `CommandLine.parseArray`, `CommandLine.parseMap` — an optional text as an array or an object
* `CommandLine.logLevel` — the log level for a number of requests to be verbose
-/

namespace InterpreterHost.CommandLine

/-- An error message and the messages of its causes, outermost first. -/
structure Failure where
  message : String
  causes : List String
deriving DecidableEq, Repr

/-- Each text as a JSON document. -/
def parseValues (texts : List String) : Except Failure (List Value) :=
  texts.zipIdx.mapM fun (text, i) =>
    (Value.parseJson text).mapError fun e => ⟨s!"argument {i + 1} is not valid JSON: {text}", [e.message]⟩

/-- The value of a text that is there to give `what`. -/
def parseOption (text what : String) : Except Failure Value :=
  (Value.parseJson text).mapError fun e => ⟨s!"{what} is not valid JSON", [e.message]⟩

/-- The items of an array; none without a text. -/
def parseArray (text : Option String) (what : String) : Except Failure (List Value) := do
  let some text := text | .ok []
  match ← parseOption text what with
  | .array items => .ok items
  | v => .error ⟨s!"{what} must be a JSON array, got {v.typeName}", []⟩

/-- The entries of an object, if there is a text. -/
def parseMap (text : Option String) (what : String) : Except Failure (Option ValueMap) := do
  let some text := text | .ok none
  match ← parseOption text what with
  | .map entries => .ok (some entries)
  | v => .error ⟨s!"{what} must be a JSON object, got {v.typeName}", []⟩

/-- The log level for a number of requests to be verbose. -/
def logLevel (verbose : Nat) : String :=
  match verbose with
  | 0 => "warn"
  | 1 => "info"
  | 2 => "debug"
  | _ => "trace"

end InterpreterHost.CommandLine
