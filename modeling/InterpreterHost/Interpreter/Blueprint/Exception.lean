import InterpreterHost.Interpreter.Blueprint

/-!
# Blueprints of exceptions

A document may describe an exception of any class, with its arguments, its notes and the exceptions that led to it.

## Main definitions

* `Blueprint.classNamed` — the class of exceptions of a name
* `Blueprint.compose` — the class and the message that the arguments of an exception decide
* `Blueprint.raised` — the exception that a document describes
-/

namespace InterpreterHost.Blueprint

open InterpreterHost.Computation

/-- Errors of the system by their numbers. -/
def systemErrors : List (Int × String) := [
  (1, "PermissionError"), (2, "FileNotFoundError"), (3, "ProcessLookupError"), (4, "InterruptedError"),
  (10, "ChildProcessError"), (11, "BlockingIOError"), (13, "PermissionError"), (17, "FileExistsError"),
  (20, "NotADirectoryError"), (21, "IsADirectoryError"), (32, "BrokenPipeError"), (103, "ConnectionAbortedError"),
  (104, "ConnectionResetError"), (108, "BrokenPipeError"), (110, "TimeoutError"), (111, "ConnectionRefusedError"),
  (114, "BlockingIOError"), (115, "BlockingIOError")]

/-- The classes of errors of the system. -/
def systemErrorClasses : List String := "OSError" :: "ConnectionError" :: systemErrors.map (·.2)

/-- The classes of exceptions that are built in. -/
def builtinClasses : List String := [
  "ArithmeticError", "AssertionError", "AttributeError", "BaseException", "BaseExceptionGroup", "BlockingIOError",
  "BrokenPipeError", "BufferError", "BytesWarning", "ChildProcessError", "ConnectionAbortedError",
  "ConnectionError", "ConnectionRefusedError", "ConnectionResetError", "DeprecationWarning", "EOFError",
  "EncodingWarning", "EnvironmentError", "Exception", "ExceptionGroup", "FileExistsError", "FileNotFoundError",
  "FloatingPointError", "FutureWarning", "GeneratorExit", "IOError", "ImportError", "ImportWarning",
  "IndentationError", "IndexError", "InterruptedError", "IsADirectoryError", "KeyError", "KeyboardInterrupt",
  "LookupError", "MemoryError", "ModuleNotFoundError", "NameError", "NotADirectoryError", "NotImplementedError",
  "OSError", "OverflowError", "PendingDeprecationWarning", "PermissionError", "ProcessLookupError",
  "RecursionError", "ReferenceError", "ResourceWarning", "RuntimeError", "RuntimeWarning", "StopAsyncIteration",
  "StopIteration", "SyntaxError", "SyntaxWarning", "SystemError", "SystemExit", "TabError", "TimeoutError",
  "TypeError", "UnboundLocalError", "UnicodeDecodeError", "UnicodeEncodeError", "UnicodeError",
  "UnicodeTranslateError", "UnicodeWarning", "UserWarning", "ValueError", "Warning", "ZeroDivisionError"]

/-- The classes of exceptions that a module of specimens has of its own. -/
def ownClasses : List String := ["OwnError", "OwnSyntaxError", "BadStrError", "BrokenCause"]

/-- Types that are built in and are not those of exceptions. -/
def otherTypes : List String :=
  ["bool", "bytearray", "bytes", "complex", "dict", "float", "frozenset", "int", "list", "object", "set", "str",
    "tuple"]

/-- Classes of exceptions that are not built in, and those that are treated in some way of their own. -/
def exceptionClass (moduleName name : String) : ExceptionClass :=
  match name with
  | "MemoryError" => { name, isMemoryError := true }
  | "SyntaxError" => { name, isSyntaxError := true }
  | "IndentationError" => { name, isSyntaxError := true }
  | "TabError" => { name, isSyntaxError := true }
  | "OwnSyntaxError" => { name, moduleName := some moduleName, isSyntaxError := true }
  | "OwnError" | "BadStrError" => { name, moduleName := some moduleName }
  | "BrokenCause" => { name, moduleName := some moduleName, formattable := false }
  | "IOError" | "EnvironmentError" => { name := "OSError" }
  | name => { name }

/-- What exceptions of a class say was not possible, and how many arguments they need for that. -/
def conversion? (className : String) : Option (String × Nat) :=
  match className with
  | "UnicodeDecodeError" => some ("decode", 5)
  | "UnicodeEncodeError" => some ("encode", 5)
  | "UnicodeTranslateError" => some ("translate", 4)
  | _ => none

/-- An argument that has to be a text. -/
def textArgument (position : Nat) (r : Ref) : Computation CodePoints := do
  match (← get).heap.plain r with
  | .str t => return t
  | .none => typeError s!"argument {position} must be str, not None"
  | _ => typeError s!"argument {position} must be str, not {← typeName r}"

/-- An argument that has to be a position. -/
def positionArgument (r : Ref) : Computation Int := do
  match integer? ((← get).heap.plain r) with
  | none => typeError s!"'{← typeName r}' object cannot be interpreted as an integer"
  | some i =>
    if isIndex i then return i else raise "OverflowError" "Python int too large to convert to C ssize_t"

/-- An argument that has to be octets. -/
def octetsArgument (r : Ref) : Computation Octets := do
  match (← get).heap.plain r with
  | .bytes content | .byteArray content => return content
  | _ => typeError s!"a bytes-like object is required, not '{← typeName r}'"

/-- A character that cannot be converted. -/
def characterText (p : CodePoint) : String :=
  let n := p.val
  let code := if n < 0x100 then 'x' :: Text.hex 2 n else if n < 0x10000 then 'u' :: Text.hex 4 n
    else 'U' :: Text.hex 8 n
  String.ofList (['\'', '\\'] ++ code ++ ['\''])

/-- An octet that cannot be converted. -/
def octetText (b : UInt8) : String := String.ofList ('0' :: 'x' :: Text.hex 2 b.toNat)

/-- The words for the units from `start` to before `stop`, one of which is called `kind` and written by `write`. -/
def unitsText {α : Type} (kind : String) (write : α → String) (units : List α) (start stop : Int)
    (reason : CodePoints) : CodePoints :=
  let several := s!"{kind}s in position {start}-{stop - 1}: "
  .ofString (match units[start.toNat]? with
    | some unit => if 0 ≤ start ∧ stop = start + 1 then s!"{kind} {write unit} in position {start}: " else several
    | none => several) ++ reason

/-- The message that an object cannot be converted between characters and octets. -/
def conversionText (action : String) (args : List Ref) : Computation CodePoints := do
  match args with
  | [encoding, object, start, stop, reason] =>
    let encoding ← textArgument 1 encoding
    let text ← if action = "encode" then textArgument 2 object else pure []
    let start ← positionArgument start
    let stop ← positionArgument stop
    let reason ← textArgument 5 reason
    let words ← if action = "encode" then pure (unitsText "character" characterText text start stop reason)
      else (unitsText "byte" octetText · start stop reason) <$> octetsArgument object
    return .ofString "'" ++ encoding ++ .ofString s!"' codec can't {action} " ++ words
  | [object, start, stop, reason] =>
    let text ← textArgument 1 object
    let start ← positionArgument start
    let stop ← positionArgument stop
    let reason ← textArgument 4 reason
    return .ofString s!"can't {action} " ++ unitsText "character" characterText text start stop reason
  | _ => return []

/-- The class of an error of the system, which its number may decide. -/
def systemErrorClass (h : Heap) (c : ExceptionClass) (number : Ref) : ExceptionClass :=
  match c.name, integer? (h.plain number) with
  | "OSError", some i => { c with name := (systemErrors.lookup i).getD c.name }
  | _, _ => c

/-- Whether the file of an error of the system is the number of octets that were written before it. -/
def isCount (h : Heap) (c : ExceptionClass) (file : Ref) : Bool :=
  c.name = "BlockingIOError" &&
    match h.plain file with
    | .foreign o => o.typeName = "complex"
    | o => (Heap.amount? o).isSome

/-- Make sure that a number can be that of octets that were written. -/
def needCount (r : Ref) : Computation Unit := do
  match integer? ((← get).heap.plain r) with
  | none => typeError s!"'{← typeName r}' object cannot be interpreted as an integer"
  | some i => if ¬ isIndex i then valueError s!"cannot fit '{← typeName r}' into an index-sized integer"

/-- The words of an error of the system: its number, the reason and the files. -/
def systemErrorText (h : Heap) (c : ExceptionClass) (number reason : Ref) (files : List Ref) :
    Except Raised CodePoints := do
  let part (before : String) (file : Option Ref) : CodePoints := match file with
    | some r => if h.object r matches .none then [] else .ofString (before ++ h.representation r)
    | none => []
  let file := part ": " (files.head?.filter fun r => !isCount h c r)
  return .ofString "[Errno " ++ (← h.text number) ++ .ofString "] " ++ (← h.text reason) ++ file ++
    if file.isEmpty then [] else part " -> " files[2]?

/-- How many calls are left for the message of an exception when it is formatted. -/
def formatterRoom : Nat := Representation.maxCalls - 5

/-- The class of an exception with the given arguments, which they may decide, and its message. -/
def compose (c : ExceptionClass) (args : List Ref) (argsTuple : Ref) :
    Computation (ExceptionClass × Except Raised CodePoints) := do
  let h := (← get).heap
  if let some (action, count) := conversion? c.name then
    if args.length ≠ count then typeError s!"function takes exactly {count} arguments ({args.length} given)"
    return (c, .ok (← conversionText action args))
  match args with
  | [] => return (c, .ok [])
  | [r] =>
    let represented := h.representationWithin formatterRoom r
    return (c, if c.name = "KeyError" then represented else represented >>= fun _ => h.text r)
  | number :: reason :: files =>
    if systemErrorClasses.contains c.name ∧ args.length ≤ 5 then
      let c := systemErrorClass h c number
      if let file :: _ := files then
        if isCount h c file then needCount file
      return (c, systemErrorText h c number reason files)
    else return (c, h.representationWithin formatterRoom argsTuple)

/-- Whether exceptions of a class cannot be written. -/
def isSpeechless (c : ExceptionClass) : Bool := c.name = "BadStrError"

def textOf? : Document → Option CodePoints
  | .text t => some t
  | _ => none

def intOf? : Document → Option Int
  | .int i => some i
  | _ => none

/-- The last part of a path. -/
def baseName (path : CodePoints) : CodePoints := (path.reverse.takeWhile fun p => !Document.is p '/').reverse

/-- The place of a syntax error. -/
def placeOf (parts : List Document) : SourcePlace :=
  let part (i : Nat) : Document := parts.getD i .null
  { message := textOf? (part 0), file := textOf? (part 1), line := intOf? (part 2), offset := intOf? (part 3),
    text := textOf? (part 4) }

/-- The message of a syntax error by itself. -/
def placeMessage (p : SourcePlace) : CodePoints :=
  let message := p.message.getD (.ofString "None")
  match p.file, p.line with
  | some file, some line => message ++ .ofString " (" ++ baseName file ++ .ofString s!", line {line})"
  | some file, none => message ++ .ofString " (" ++ baseName file ++ .ofString ")"
  | none, some line => message ++ .ofString s!" (line {line})"
  | none, none => message

/-- The part of a document that has a name. -/
def partNamed (d : Document) (name : String) : Computation Document :=
  match d with
  | .dict entries =>
    match field? entries name with
    | some part => return part
    | none => raise "KeyError" s!"'{name}'"
  | .list _ => typeError "list indices must be integers or slices, not str"
  | .text _ => typeError "string indices must be integers, not 'str'"
  | d => typeError s!"'{d.typeName}' object is not subscriptable"

/-- What a loop over a part of a document sees, if there is that part. -/
def partsNamed (entries : List (CodePoints × Document)) (name : String) : Computation (List Document) :=
  match field? entries name with
  | some part => loopOver part
  | none => return []

/-- The class of exceptions of a name. -/
def classNamed (moduleName : String) : Document → Computation ExceptionClass
  | .text t =>
    let name := t.toStringLossy
    if otherTypes.contains name then typeError "exceptions must derive from BaseException"
    else if ownClasses.contains name || builtinClasses.contains name then return exceptionClass moduleName name
    else raise "AttributeError" s!"module 'builtins' has no attribute '{name}'"
  | d => typeError <|
    match d with
    | .list _ | .dict _ => s!"unhashable type: '{d.typeName}'"
    | d => s!"attribute name must be string, not '{d.typeName}'"

/-- A note of an exception. -/
def noteOf : Document → Computation CodePoints
  | .text t => return t
  | d => typeError s!"note must be a str, not '{d.typeName}'"

/-- One exception that a document describes, with the entries of the document. -/
def thrown (moduleName : String) (d : Document) : Computation (Thrown × List (CodePoints × Document)) := do
  let c ← classNamed moduleName (← partNamed d "type")
  let entries := match d with
    | .dict entries => entries
    | _ => []
  let notes : Computation (List CodePoints) := do (← partsNamed entries "notes").mapM noteOf
  match field? entries "syntax" with
  | some place =>
    let place := placeOf (← loopOver place)
    return ({ exceptionClass := c, message := some (placeMessage place), notes := ← notes, place := some place },
      entries)
  | none =>
    let args ← (← partsNamed entries "args").mapM (build moduleName)
    let argsTuple ← new (.tuple args)
    let (c, message) ← compose c args argsTuple
    release argsTuple
    let message := if isSpeechless c then .error (.builtin "RuntimeError" "") else message
    return ({ Thrown.ofText c message with notes := ← notes }, entries)

/-- The exception that a document describes, where `fuel` is greater than the depth of the document. -/
def raisedAux (moduleName function : String) : Nat → Document → Computation Raised
  | 0, _ => return .builtin "RecursionError" ""
  | fuel + 1, document => do
    let (e, entries) ← thrown moduleName document
    match (field? entries "cause").getD .null, (field? entries "context").getD .null with
    | .null, .null => return { thrown := e }
    | .null, context =>
      let inner := (← raisedAux moduleName function fuel context).through function
      return { thrown := e, earlier := (.context, inner.thrown) :: inner.earlier }
    | cause, _ =>
      let inner ← raisedAux moduleName function fuel cause
      return { thrown := e, earlier := (.cause, inner.thrown) :: inner.earlier }

/-- The exception that a document describes, before it is raised, with those that led to it.  A context was raised
itself, in the function `function`; a cause was not. -/
def raised (moduleName function : String) (document : Document) : Computation Raised :=
  raisedAux moduleName function (document.depth + 1) document

end InterpreterHost.Blueprint
