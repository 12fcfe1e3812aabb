import InterpreterHost.Interpreter.Exotic
import InterpreterHost.Interpreter.Literal

/-!
# Blueprints of objects

A document may describe an object of any kind: what is no list or dictionary stands for itself, and a
dictionary of one entry for an object of the kind that its key names.

## Main definitions

* `Blueprint.build` — the object that a document describes

## Design notes

A document may fail to describe anything; the exception that this raises is part of the answer, so every part is used
in the order in which it is needed.
-/

namespace InterpreterHost.Blueprint

open InterpreterHost.Computation

/-! ## Parts of documents -/

/-- What a loop over a document sees. -/
def loopOver (d : Document) : Computation (List Document) :=
  match d.parts? with
  | some parts => return parts
  | none => typeError s!"'{d.typeName}' object is not iterable"

/-- The exception that there are more or fewer parts than are expected. -/
def miscounted (expected given : Nat) : Computation α :=
  valueError <|
    if given < expected then s!"not enough values to unpack (expected {expected}, got {given})"
    else s!"too many values to unpack (expected {expected})"

/-- The parts of a document of which `expected` are expected. -/
def unpack (expected : Nat) (d : Document) : Computation (List Document) :=
  match d.parts? with
  | some parts => if parts.length = expected then return parts else miscounted expected parts.length
  | none => typeError s!"cannot unpack non-iterable {d.typeName} object"

/-- The whole number that a document is. -/
def wholeNumber : Document → Computation Int
  | .int i => return i
  | .bool b => return if b then 1 else 0
  | d => typeError s!"'{d.typeName}' object cannot be interpreted as an integer"

/-- The exception that an integer does not fit into one of the host. -/
def tooLarge (kind : String) : Computation α := raise "OverflowError" s!"Python int too large to convert to C {kind}"

/-- The text that a document is, where hexadecimal digits are needed. -/
def digitsOf : Document → Computation CodePoints
  | .text t => return t
  | .null => typeError "fromhex() argument must be str, not None"
  | d => typeError s!"fromhex() argument must be str, not {d.typeName}"

/-! ## Numbers and texts -/

/-- The whole number that a document spells. -/
def integerOf : Document → Computation Int
  | .text t => Literal.integer t
  | .float f => Literal.truncated f
  | .int i => return i
  | .bool b => return if b then 1 else 0
  | d => typeError s!"int() argument must be a string, a bytes-like object or a real number, not '{d.typeName}'"

/-- The octets that a document spells. -/
def octetsOf (d : Document) : Computation Octets := do Literal.octets (← digitsOf d)

/-- The double with the bits that a document spells, or NaN. -/
def floatOf (d : Document) : Computation Binary64 := do
  if d matches .text [110, 97, 110] then return Binary64.nan
  else
    let content ← octetsOf d
    if content.length = 8 then return Literal.floatOfOctets content
    else throw (.of { name := "error", moduleName := some "struct" } (.ofString "unpack requires a buffer of 8 bytes"))

/-- The code point of a number. -/
def characterOf (d : Document) : Computation CodePoint := do
  let n ← wholeNumber d
  if n < -0x80000000 ∨ 0x80000000 ≤ n then tooLarge "int"
  else if 0 ≤ n ∧ n < 0x110000 then return .ofNat n.toNat
  else valueError "chr() arg not in range(0x110000)"

/-! ## Dates and times -/

/-- One part of a duration. -/
def durationPart (name : String) : Document → Computation Int
  | .int i => return i
  | .bool b => return if b then 1 else 0
  | d => typeError s!"unsupported type for timedelta {name} component: {d.typeName}"

/-- The parts of a duration with the microseconds in one of each, in the order in which they are looked at. -/
def durationParts : List (String × Int) := [
  ("microseconds", 1), ("milliseconds", 1000), ("seconds", 1000000), ("minutes", 60000000), ("hours", 3600000000),
  ("days", DateTime.dayMicros), ("weeks", 7 * DateTime.dayMicros)]

/-- The order in which the parts of a duration are written. -/
def durationOrder : List String :=
  ["days", "seconds", "microseconds", "milliseconds", "minutes", "hours", "weeks"]

/-- The microseconds of a duration, of which the days come first. -/
def durationOf (d : Document) : Computation Int := do
  let parts ← loopOver d
  if 7 < parts.length then typeError s!"__new__() takes at most 7 arguments ({parts.length} given)"
  let given := durationOrder.zip parts
  let amounts ← durationParts.mapM fun (name, micros) =>
    match given.lookup name with
    | some part => (micros * ·) <$> durationPart name part
    | none => pure 0
  let micros := amounts.foldl (· + ·) 0
  let days := micros.fdiv DateTime.dayMicros
  if days.natAbs < 1000000000 then return micros
  else if days < -0x80000000 ∨ 0x80000000 ≤ days then tooLarge "int"
  else raise "OverflowError" s!"days={days}; must have magnitude <= 999999999"

/-- The time zone that a document describes; none for a naive time. -/
def zoneOf : Document → Computation (Option Zone)
  | .null => return none
  | .text t =>
    return some (match t.toStringLossy with
      | "raise" => .raising
      | "memory" => .exhausted
      | "none" => .absent
      | _ => .malformed)
  | .dict ((kind, d) :: _) => do
    let micros ← durationOf d
    match kind.toStringLossy with
    | "sub" => return some (.derived micros)
    | "fixed" =>
      if DateTime.isOffset micros then return some (.fixed micros)
      else valueError (DateTime.offsetLimits ++ ", not " ++ Representation.durationText micros ++ ".")
    | _ => return some (.offset micros)
  | _ => return none

/-- One field of a date and time. -/
def fieldOf (d : Document) : Computation Int := do
  let n ← wholeNumber d
  if n < -0x8000000000000000 ∨ 0x8000000000000000 ≤ n then tooLarge "long"
  else if n < -0x80000000 then raise "OverflowError" "signed integer is less than minimum"
  else if 0x80000000 ≤ n then raise "OverflowError" "signed integer is greater than maximum"
  else return n

/-- The date and time with the fields and the time zone that documents describe. -/
def dateTimeOf (fields zone : Document) : Computation DateTime := do
  let zone ← zoneOf zone
  let parts ← match fields.parts? with
    | some parts => pure parts
    | none => typeError s!"datetime.datetime() argument after * must be an iterable, not {fields.typeName}"
  if 8 < parts.length then typeError s!"function takes at most 9 arguments ({parts.length + 1} given)"
  let values ← (parts.take 7).mapM fieldOf
  if let some name := ["year", "month", "day"][values.length]? then
    typeError s!"function missing required argument '{name}' (pos {values.length + 1})"
  if 7 < parts.length then typeError "argument for function given by name ('tzinfo') and position (8)"
  let value (i : Nat) : Int := values.getD i 0
  if let some fault := DateTime.fault? (value 0) (value 1) (value 2) (value 3) (value 4) (value 5) (value 6) then
    valueError fault
  let field (i : Nat) : Nat := (value i).toNat
  return ⟨⟨value 0, field 1, field 2⟩, field 3, field 4, field 5, field 6, zone, false⟩

/-! ## Containers -/

/-- Put an object into a container of one element, by the name of the kind of container. -/
def wrappers : List (String × (Ref → Computation Ref)) := [
  ("list", fun r => newList [r]), ("tuple", fun r => new (.tuple [r])), ("dict", fun r => newDict [("k", r)])]

/-- The exception that nothing has a name. -/
def unknownName (name : Document) : Computation α := do
  let r ← name.build
  needKey r
  raise "KeyError" ((← get).heap.representation r)

/-- Put an object into containers around each other. -/
def wrap (kind depth : Document) (r : Ref) : Computation Ref := do
  let wrapper ← match kind with
    | .text t => match wrappers.lookup t.toStringLossy with
      | some wrapper => pure wrapper
      | none => unknownName kind
    | kind => unknownName kind
  Nat.foldM (← wholeNumber depth).toNat (fun _ _ r => wrapper r) r

/-- A container that holds itself. -/
def cycleOf (kind : Document) : Computation Ref := do
  match kind with
  | .text [100, 105, 99, 116] =>
    let r ← new (.dict [])
    setObject r (.dict [(← newText "k", ← retain r)])
    return r
  | _ =>
    let r ← newList []
    setObject r (.list [← retain r])
    return r

/-! ## Objects -/

/-- The entry of a dictionary with a name. -/
def field? (entries : List (CodePoints × Document)) (name : String) : Option Document :=
  (entries.find? (·.1 = .ofString name)).map (·.2)

/-- Make the object of a kind, where `build` makes those within it and `zone` is the time zone of a date and time. -/
def buildKind (moduleName : String) (build : Document → Computation Ref) (kind : CodePoints)
    (content zone : Document) : Computation Ref := do
  match kind.toStringLossy with
  | "int" => do newInt (← integerOf content)
  | "float" => do new (.float (← floatOf content))
  | "chars" => do new (.str (← (← loopOver content).mapM characterOf))
  | "bytes" => do new (.bytes (← octetsOf content))
  | "bytearray" => do new (.byteArray (← octetsOf content))
  | "list" => do newList (← (← loopOver content).mapM build)
  | "tuple" => do new (.tuple (← (← loopOver content).mapM build))
  | "dict" => do
    let entries ← (← loopOver content).foldlM (fun made pair => do
      match ← (← unpack 2 pair).mapM build with
      | [key, value] => bindKey made key value
      | _ => return made) []
    new (.dict entries)
  | "datetime" => do new (.datetime (← dateTimeOf content zone))
  | "nest" =>
    match ← unpack 3 content with
    | [container, depth, inner] => do wrap container depth (← build inner)
    | _ => newNone
  | "cycle" => cycleOf content
  | "opaque" =>
    match content with
    | .text t => (Exotic.make? moduleName t.toStringLossy).getD (unknownName content)
    | _ => unknownName content
  | _ => unknownName (.text kind)

/-- Make the object that a document describes, where `fuel` is greater than the depth of the document. -/
def buildAux (moduleName : String) : Nat → Document → Computation Ref
  | 0, _ => newNone
  | fuel + 1, d =>
    match d with
    | .dict entries =>
      match entries.filter (·.1 ≠ .ofString "tz") with
      | [(kind, content)] =>
        buildKind moduleName (buildAux moduleName fuel) kind content ((field? entries "tz").getD .null)
      | chosen => miscounted 1 chosen.length
    | .list _ | .float _ => raise "AttributeError" s!"'{d.typeName}' object has no attribute 'items'"
    | d => d.build

/-- Make the object that a document describes; those of the module are its own classes and their instances. -/
def build (moduleName : String) (d : Document) : Computation Ref := buildAux moduleName (d.depth + 1) d

end InterpreterHost.Blueprint
