import InterpreterHost.Config
import InterpreterHost.Json.Printer
import InterpreterHost.Json.Skip
import InterpreterHost.Text.Quoted

/-!
# Configuration files

A configuration is kept as a JSON object with a section for each part.  A field that is missing has its default, one of
an unknown name is passed over, and a section may also be written as the list of its fields.

## Main definitions

* `Config.text` — the text of a configuration
* `Config.parse` — the configuration of a text
* `Config.ofFile` — the configuration of a file, if it can be read
* `Config.ofEnvironment` — the configuration that the environment names

## Design notes

The reader does not build a document first: where a fault shows depends on what was expected there.
-/

namespace InterpreterHost

namespace Json

/-! ## Typed readers -/

/-- A document of another type, in words, and the rest of the text behind the part that shows the type. -/
def describe (depth : Nat) (s : List Char) : Except Refusal (String × List Char) :=
  match s with
  | '[' :: _ => .ok ("sequence", s)
  | '\x7b' :: _ => .ok ("map", s)
  | _ => do
    let (v, rest) ← readValue depth s
    let words :=
      match v with
      | .bool b => if b then "boolean `true`" else "boolean `false`"
      | .integer i => "integer `" ++ toString i ++ "`"
      | .float f => "floating point `" ++ layout.render f ++ "`"
      | .string s => "string " ++ Text.quote s
      | _ => "null"
    .ok (words, rest)

/-- Refuse a document that is not what was expected. -/
def mismatch (expected : String) (s : List Char) : Except Refusal α := do
  let (found, rest) ← describe 0 s
  here (.invalidType found expected) rest

/-- Read a value whose first character decides how. -/
def readBy (f : Char → List Char → Except Refusal (α × List Char)) : Reader α := fun s =>
  match skipBlanks s with
  | [] => here .endInValue []
  | c :: rest => f c rest

def readText (expected : String) : Reader String := readBy fun c rest =>
  if c = '"' then readString rest else mismatch expected (c :: rest)

def readBool : Reader Bool := readBy fun c rest =>
  if c = 't' then (readWord "rue".toList rest).map (true, ·)
  else if c = 'f' then (readWord "alse".toList rest).map (false, ·)
  else mismatch "a boolean" (c :: rest)

/-- A natural number of one word. -/
def readSize : Reader Nat := readBy fun c rest => do
  if c = '-' ∨ c.isDigit then
    let (v, after) ← readValue 0 (c :: rest)
    match v with
    | .integer (.ofNat n) => .ok (n, after)
    | .integer i => here (.invalidValue ("integer `" ++ toString i ++ "`") "usize") after
    | _ => mismatch "usize" (c :: rest)
  else mismatch "usize" (c :: rest)

def readOptional (reader : Reader α) : Reader (Option α) := readBy fun c rest =>
  if c = 'n' then (readWord "ull".toList rest).map (none, ·)
  else (reader (c :: rest)).map fun p => (some p.1, p.2)

def readList (reader : Reader α) : Reader (List α) := readBy fun c rest =>
  if c = '[' then readElements reader rest else mismatch "a sequence" (c :: rest)

/-! ## Records -/

/-- A field of a record: its name, and a reader that puts what it reads into the record. -/
structure RecordField (σ : Type) where
  name : String
  read : σ → Reader σ

/-- A field with a reader of its content. -/
def RecordField.of (name : String) (reader : Reader α) (set : σ → α → σ) : RecordField σ :=
  ⟨name, fun record s => (reader s).map fun p => (set record p.1, p.2)⟩

/-- The closing bracket of a list all of whose items are read. -/
def closeList (s : List Char) : Except Refusal (List Char) :=
  match skipBlanks s with
  | [] => here .endInList []
  | ']' :: rest => .ok rest
  | ',' :: rest =>
    match skipBlanks rest with
    | ']' :: rest => next .trailingComma (']' :: rest)
    | s => next .trailingCharacters s
  | s => next .trailingCharacters s

/-- The fields of a record as the items of a list.  The last ones may be missing. -/
def readFieldList (record : σ) (first : Bool) : List (RecordField σ) → Reader σ
  | [], s => do .ok (record, ← closeList s)
  | field :: fields, s =>
    match skipBlanks s with
    | [] => here .endInList []
    | ']' :: rest => .ok (record, rest)
    | c :: rest => do
      let s ←
        if first then .ok (c :: rest)
        else if c = ',' then
          match skipBlanks rest with
          | [] => here .endInValue []
          | ']' :: rest => next .trailingComma (']' :: rest)
          | s => .ok s
        else next .expectedCommaOrBracket (c :: rest)
      let (record, rest) ← field.read record s
      readFieldList record false fields rest

/-- One entry of a record.  A field must not come twice; an unknown one is passed over. -/
def readField (fields : List (RecordField σ)) (name : String) (acc : σ × List String) :
    Reader (σ × List String) := fun s =>
  match fields.find? (·.name = name) with
  | some field =>
    if acc.2.contains name then
      match skipBlanks s with
      | '\x7d' :: rest => here (.duplicateField name) rest
      | s => here (.duplicateField name) s
    else do
      let (record, rest) ← field.read acc.1 (← readColon s)
      .ok ((record, name :: acc.2), rest)
  | none => do .ok (acc, ← skipValue (← readColon s))

/-- A record with its defaults, written as an object or as a list of fields. -/
def readRecord (name : String) (default : σ) (fields : List (RecordField σ)) : Reader σ := readBy fun c rest =>
  if c = '[' then readFieldList default true fields rest
  else if c = '\x7b' then (readMembers (readField fields) (default, []) rest).map fun p => (p.1.1, p.2)
  else mismatch ("struct " ++ name) (c :: rest)

end Json

/-! ## Documents of the sections -/

def InterpreterConfig.toJson (c : InterpreterConfig) : Json :=
  .object
    [("thread_name", .string c.threadName),
      ("stack_size", match c.stackSize with | some n => .integer n | none => .null),
      ("install_signal_handlers", .bool c.installSignalHandlers),
      ("search_paths", .array (c.searchPaths.map .string))]

def StateConfig.toJson (c : StateConfig) : Json :=
  .object [("temp_dir", match c.tempDir with | some path => .string path | none => .null)]

namespace Config

open Json

/-! ## Reading -/

def interpreterFields : List (RecordField InterpreterConfig) :=
  [.of "thread_name" (readText "a string") fun c v => { c with threadName := v },
    .of "stack_size" (readOptional readSize) fun c v => { c with stackSize := v },
    .of "install_signal_handlers" readBool fun c v => { c with installSignalHandlers := v },
    .of "search_paths" (readList (readText "path string")) fun c v => { c with searchPaths := v }]

def stateFields : List (RecordField StateConfig) :=
  [.of "temp_dir" (readOptional (readText "path string")) fun c v => { c with tempDir := v }]

def sections : List (RecordField Config) :=
  [.of "interpreter" (readRecord "InterpreterConfig" {} interpreterFields) fun c v => { c with interpreter := v },
    .of "state" (readRecord "StateConfig" {} stateFields) fun c v => { c with state := v }]

/-- The configuration of a text. -/
def parse (text : String) : Except ReadError Config := readAll (readRecord "RuntimeConfig" {} sections) text

/-- The content of a file, or why there is none. -/
abbrev FileContent := Except String (List UInt8)

/-- What the operating system says of a file that does not exist. -/
def noSuchFile : String := "No such file or directory (os error 2)"

/-- The configuration of a file. -/
def ofFile (path : String) (content : FileContent) : Except ConfigError Config :=
  match content with
  | .error reason => .error (.access path reason)
  | .ok octets =>
    match Utf8.decode octets with
    | .error _ => .error (.access path "stream did not contain valid UTF-8")
    | .ok chars => (parse (String.ofList chars)).mapError fun e => .invalid path e.message

/-- The configuration of the file that the environment names; the default if it names none. -/
def ofEnvironment (named : Option String) (read : String → FileContent) : Except ConfigError Config :=
  match named with
  | none => .ok {}
  | some path => if path.isEmpty then .ok {} else ofFile path (read path)

/-! ## Writing -/

/-- The document of a configuration, its fields in the order of the type. -/
def toJson (c : Config) : Json :=
  .object [("interpreter", c.interpreter.toJson), ("state", c.state.toJson)]

/-- The text of a configuration. -/
def text (c : Config) : String := c.toJson.pretty

end Config

end InterpreterHost
