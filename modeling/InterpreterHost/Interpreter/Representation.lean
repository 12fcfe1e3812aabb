import InterpreterHost.Decimal.Layout
import InterpreterHost.Interpreter.Computation
import InterpreterHost.Text.Quoted

/-!
# How the interpreter writes objects

## Main definitions

* `Representation.layout` — how floats are written
* `Heap.representation` — an object as it is written within others
* `Heap.overflows` — whether that takes too many calls within one another
* `Heap.text` — an object as it is written by itself, unless that raises an exception
-/

namespace InterpreterHost

namespace Representation

/-- Floats are written positionally up to sixteen places before the point and four zeros after it, and always
with a fraction or an exponent. -/
def layout : Decimal.Layout where
  lowest := some (-4)
  highest := some 16
  keepFraction := true
  exponentDigits := 2
  infinity := "inf"
  nan := "nan"

/-- The quotation mark that needs the fewer escapes: the single one, unless only it occurs. -/
def mark (occurs : Char → Bool) : Char := if occurs '\'' && !occurs '"' then '"' else '\''

/-- One code point within quotation marks. -/
def quotePoint (mark : Char) (p : CodePoint) : List Char :=
  let n := p.val
  if n = mark.toNat then ['\\', mark]
  else if n = 92 then ['\\', '\\']
  else if n = 9 then ['\\', 't']
  else if n = 10 then ['\\', 'n']
  else if n = 13 then ['\\', 'r']
  else if n < 32 || n = 127 then '\\' :: 'x' :: Text.hex 2 n
  else if n < 127 then [Char.ofNat n]
  else if !p.isSurrogate && Text.isLongPrintable n then [Char.ofNat n]
  else if n < 0x100 then '\\' :: 'x' :: Text.hex 2 n
  else if n < 0x10000 then '\\' :: 'u' :: Text.hex 4 n
  else '\\' :: 'U' :: Text.hex 8 n

/-- A text between quotation marks. -/
def quote (text : CodePoints) : String :=
  let mark := mark fun c => text.contains (.ofChar c)
  String.ofList (mark :: text.flatMap (quotePoint mark) ++ [mark])

/-- One octet within quotation marks, where the quotation mark `escaped` gets a backslash. -/
def quoteOctet (escaped : Char) (b : UInt8) : List Char :=
  if b < 127 then quotePoint escaped (.ofChar (Char.ofNat b.toNat)) else '\\' :: 'x' :: Text.hex 2 b.toNat

/-- The quotation mark around octets. -/
def octetMark (bytes : Octets) : Char := mark fun c => bytes.contains (UInt8.ofNat c.toNat)

/-- Octets between quotation marks. -/
def quoteOctets (escaped : Char) (bytes : Octets) : String :=
  String.ofList ('b' :: octetMark bytes :: bytes.flatMap (quoteOctet escaped) ++ [octetMark bytes])

/-- The fields of a date and time that are always written, and those of them at the end that are not zero. -/
def dateFields (t : DateTime) : List Nat :=
  [t.date.year.toNat, t.date.month, t.date.day, t.hour, t.minute] ++
    if t.micros ≠ 0 then [t.second, t.micros] else if t.second ≠ 0 then [t.second] else []

/-- A natural number in at least `width` digits. -/
def padded (width n : Nat) : String := String.ofList (List.replicate (width - (toString n).length) '0') ++ toString n

/-- A date and time of day with a blank between them. -/
def dateText (t : DateTime) : String :=
  s!"{padded 4 t.date.year.toNat}-{padded 2 t.date.month}-{padded 2 t.date.day} " ++
    s!"{padded 2 t.hour}:{padded 2 t.minute}:{padded 2 t.second}" ++
    if t.micros ≠ 0 then "." ++ padded 6 t.micros else ""

/-- An offset from universal time with its sign. -/
def offsetText (micros : Int) : String :=
  let n := micros.natAbs
  let seconds := n / 1000000
  (if micros < 0 then "-" else "+") ++ s!"{padded 2 (seconds / 3600)}:{padded 2 (seconds / 60 % 60)}" ++
    (if n % 60000000 ≠ 0 then ":" ++ padded 2 (seconds % 60) else "") ++
    if n % 1000000 ≠ 0 then "." ++ padded 6 (n % 1000000) else ""

/-- A duration by the parts of it that are not zero: days, and seconds and microseconds that are never negative. -/
def durationText (micros : Int) : String :=
  let parts : List (String × Int) := [("days", micros.fdiv DateTime.dayMicros),
    ("seconds", (micros.fmod DateTime.dayMicros).fdiv 1000000), ("microseconds", micros.fmod 1000000)]
  let shown := (parts.filter (·.2 ≠ 0)).map fun p => s!"{p.1}={p.2}"
  "datetime.timedelta(" ++ (if shown.isEmpty then "0" else ", ".intercalate shown) ++ ")"

/-- A time zone within a date and time. -/
def zoneText : Zone → String
  | .fixed 0 => "datetime.timezone.utc"
  | .fixed micros => "datetime.timezone(" ++ durationText micros ++ ")"
  | _ => "<tzinfo>"

/-- How many calls lie within one another at most. -/
def maxCalls : Nat := 1000

/-- A date and time of a class within others. -/
def datetimeText (className : String) (t : DateTime) : String :=
  let zone := match t.zone with
    | some zone => ", tzinfo=" ++ zoneText zone
    | none => ""
  let fold := if t.fold then ", fold=1" else ""
  className ++ "(" ++ ", ".intercalate ((dateFields t).map toString) ++ fold ++ zone ++ ")"

end Representation

namespace Heap

open InterpreterHost.Representation

mutual

/-- An object as it is written within others, where `active` are the containers around it. -/
def represent (h : Heap) : Nat → List Ref → Ref → String
  | 0, _, _ => "..."
  | fuel + 1, active, r =>
    match h.object r with
    | .none => "None"
    | .bool b => if b then "True" else "False"
    | .int i => toString i
    | .float f => layout.render f
    | .str text => quote text
    | .bytes content => quoteOctets (octetMark content) content
    | .byteArray content => "bytearray(" ++ quoteOctets '\'' content ++ ")"
    | .list items =>
      if active.contains r then "[...]"
      else "[" ++ ", ".intercalate (representAll h fuel (r :: active) items) ++ "]"
    | .tuple items =>
      if active.contains r then "(...)"
      else match representAll h fuel (r :: active) items with
        | [item] => "(" ++ item ++ ",)"
        | items => "(" ++ ", ".intercalate items ++ ")"
    | .dict entries =>
      if active.contains r then "\x7b...\x7d"
      else "\x7b" ++ ", ".intercalate (representEntries h fuel (r :: active) ": " entries) ++ "\x7d"
    | .set frozen items =>
      let inner := "\x7b" ++ ", ".intercalate (representAll h fuel (r :: active) items) ++ "\x7d"
      match frozen, items with
      | true, [] => "frozenset()"
      | true, _ => "frozenset(" ++ inner ++ ")"
      | false, [] => "set()"
      | false, _ => inner
    | .datetime t => datetimeText "datetime.datetime" t
    | .derived e base =>
      match e.look, h.object base with
      | .enclosed start, _ => start ++ represent h fuel active base ++ ")"
      | .pairs name, .dict [] => name ++ "()"
      | .pairs name, .dict entries =>
        name ++ "([" ++ ", ".intercalate
          ((representEntries h fuel (r :: active) ", " entries).map fun e => "(" ++ e ++ ")") ++ "])"
      | .named name fields, .tuple items =>
        name ++ "(" ++ ", ".intercalate
          (fields.zipWith (fun f item => f ++ "=" ++ item) (representAll h fuel (r :: active) items)) ++ ")"
      | .member name, _ => s!"<{name}: " ++ represent h fuel active base ++ ">"
      | _, .byteArray content => e.typeName ++ "(" ++ quoteOctets '\'' content ++ ")"
      | _, .datetime t => datetimeText e.typeName t
      | _, _ => represent h fuel active base
    | .foreign o => o.shown.getD s!"<{o.typeName} object>"
    | .function ⟨"builtins", name⟩ => s!"<built-in function {name}>"
    | .function name => s!"<function {name.qualified}>"
    | .method .. => "<bound method>"
    | .builtinClass name => s!"<class '{name}'>"
    | .cls name moduleName .. => s!"<class '{moduleName}.{name}'>"
    | .module name _ => s!"<module '{name}'>"
    | _ => s!"<{h.typeName r} object>"

def representAll (h : Heap) (fuel : Nat) (active : List Ref) : List Ref → List String
  | [] => []
  | r :: rest => represent h fuel active r :: representAll h fuel active rest

def representEntries (h : Heap) (fuel : Nat) (active : List Ref) (between : String) :
    List (Ref × Ref) → List String
  | [] => []
  | (k, v) :: rest =>
    (represent h fuel active k ++ between ++ represent h fuel active v) ::
      representEntries h fuel active between rest

end

mutual

/-- Whether writing an object takes more than `room` calls within one another, where `active` are the containers
around it. -/
def overflows (h : Heap) : Nat → List Ref → Ref → Bool
  | 0, _, _ => true
  | room + 1, active, r =>
    if active.contains r then false
    else match h.object r with
      | .list items | .tuple items | .set _ items => overflowsAny h room (r :: active) items
      | .dict entries => overflowsAnyEntry h room (r :: active) entries
      | _ => false

def overflowsAny (h : Heap) (room : Nat) (active : List Ref) : List Ref → Bool
  | [] => false
  | r :: rest => overflows h room active r || overflowsAny h room active rest

def overflowsAnyEntry (h : Heap) (room : Nat) (active : List Ref) : List (Ref × Ref) → Bool
  | [] => false
  | (k, v) :: rest =>
    overflows h room active k || overflows h room active v || overflowsAnyEntry h room active rest

end

/-- An object as it is written within others.  No more containers than there are objects lie around each other. -/
def representation (h : Heap) (r : Ref) : String := h.represent (h.cells.size + 1) [] r

/-- An object as it is written within others, if `room` calls within one another are enough for it. -/
def representationWithin (h : Heap) (room : Nat) (r : Ref) : Except Raised CodePoints :=
  if h.overflows room [] r then .error (.tooManyCalls "getting the repr of an object")
  else .ok (.ofString (h.representation r))

/-- An object as it is written by itself, unless that raises an exception: its time zone may, and containers may
lie too deep within one another. -/
def text (h : Heap) (r : Ref) : Except Raised CodePoints :=
  match h.object r, h.plain r with
  | _, .datetime t => t.offset.map fun offset => .ofString (dateText t ++ (offset.map offsetText).getD "")
  | _, .str t => .ok t
  | .foreign o, _ => .ok (.ofString ((o.written <|> o.shown).getD s!"<{o.typeName} object>"))
  | .derived ⟨_, .member _⟩ base, _ => .ok (.ofString (h.representation base))
  | _, _ => h.representationWithin maxCalls r

end Heap

end InterpreterHost
