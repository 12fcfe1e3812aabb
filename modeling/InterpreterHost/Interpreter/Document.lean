import InterpreterHost.Interpreter.Representation

/-!
# JSON as the interpreter reads and writes it

The interpreter's own reader takes integers of any size and texts with lone surrogates, and counts characters where
it says what is wrong.

## Main definitions

* `Document` — what was read
* `Document.maxDepth` — how deep documents may be
* `Document.read` — read a text, or raise an exception that says what is wrong and where
* `Heap.jsonText` — write an object
-/

namespace InterpreterHost

/-- What a text was read as. -/
inductive Document where
  | null
  | bool (b : Bool)
  | int (i : Int)
  | float (f : Binary64)
  | text (t : CodePoints)
  | list (items : List Document)
  /-- Entries with different keys. -/
  | dict (entries : List (CodePoints × Document))
deriving Repr, Inhabited

namespace Document

mutual

/-- How many lists and dictionaries lie around each other in a document. -/
def depth : Document → Nat
  | list items => depthOfItems items + 1
  | dict entries => depthOfEntries entries + 1
  | _ => 0

def depthOfItems : List Document → Nat
  | [] => 0
  | d :: items => max (depth d) (depthOfItems items)

def depthOfEntries : List (CodePoints × Document) → Nat
  | [] => 0
  | (_, d) :: entries => max (depth d) (depthOfEntries entries)

end

/-- The name of the type that the object of a document has. -/
def typeName : Document → String
  | null => "NoneType"
  | bool _ => "bool"
  | int _ => "int"
  | float _ => "float"
  | text _ => "str"
  | list _ => "list"
  | dict _ => "dict"

/-- What a loop over a document sees, if there can be one. -/
def parts? : Document → Option (List Document)
  | text t => some (t.map fun p => text [p])
  | list items => some items
  | dict entries => some (entries.map fun e => text e.1)
  | _ => none

/-- Why a text cannot be read. -/
inductive Fault where
  /-- What is wrong, and how much of the text is left where it is. -/
  | malformed (message : String) (left : Nat)
  /-- A whole number with more digits than are read. -/
  | tooManyDigits (count : Nat)
  /-- More containers around each other than are read, the innermost of a kind. -/
  | tooDeep (kind : String)
deriving Repr

/-- Read the start of a text and give the rest. -/
abbrev Reader (α : Type) := CodePoints → Except Fault (α × CodePoints)

def is (p : CodePoint) (c : Char) : Bool := p.val = c.toNat

def isBlank (p : CodePoint) : Bool := is p ' ' || is p '\t' || is p '\n' || is p '\r'
def skipBlanks (s : CodePoints) : CodePoints := s.dropWhile isBlank

def isDigit (p : CodePoint) : Bool := '0'.toNat ≤ p.val && p.val ≤ '9'.toNat

def hexDigit? (p : CodePoint) : Option Nat :=
  let n := p.val
  if isDigit p then some (n - 48)
  else if 97 ≤ n ∧ n ≤ 102 then some (n - 87)
  else if 65 ≤ n ∧ n ≤ 70 then some (n - 55)
  else none

/-- Four hexadecimal digits at the start. -/
def hex4? : CodePoints → Option (Nat × CodePoints)
  | a :: b :: c :: d :: rest => do
    let n := (((← hexDigit? a) * 16 + (← hexDigit? b)) * 16 + (← hexDigit? c)) * 16 + (← hexDigit? d)
    return (n, rest)
  | _ => none

/-- The code point of an escape, after its letter `u`; `left` is where the letter is.  Two escapes spell one code
point only if the text goes on after them. -/
def readUnicode (left : Nat) (s : CodePoints) : Except Fault (CodePoint × CodePoints) :=
  match hex4? s with
  | none => .error (.malformed "Invalid \\uXXXX escape" left)
  | some (n, rest) =>
    if rest.isEmpty then .error (.malformed "Invalid \\uXXXX escape" left)
    else if 0xd800 ≤ n ∧ n < 0xdc00 then
      match rest with
      | a :: b :: rest' =>
        if 6 < rest.length ∧ is a '\\' ∧ is b 'u' then
          match hex4? rest' with
          | some (m, rest'') =>
            if 0xdc00 ≤ m ∧ m < 0xe000 then .ok (.ofNat (0x10000 + (n - 0xd800) * 0x400 + (m - 0xdc00)), rest'')
            else .ok (.ofNat n, rest)
          | none => .error (.malformed "Invalid \\uXXXX escape" (rest'.length + 1))
        else .ok (.ofNat n, rest)
      | _ => .ok (.ofNat n, rest)
    else .ok (.ofNat n, rest)

/-- What the letter of an escape stands for. -/
def escaped? (p : CodePoint) : Option CodePoint :=
  ([('"', '"'), ('\\', '\\'), ('/', '/'), ('b', '\x08'), ('f', '\x0c'), ('n', '\n'), ('r', '\r'), ('t', '\t')].find?
    (is p ·.1)).map (.ofChar ·.2)

/-- Read the characters of a string after its quotation mark; `start` is where that is. -/
def readCharacters (start : Nat) : Nat → CodePoints → Except Fault (CodePoints × CodePoints)
  | 0, _ => .error (.malformed "Unterminated string starting at" start)
  | _, [] => .error (.malformed "Unterminated string starting at" start)
  | fuel + 1, p :: rest =>
    if is p '"' then .ok ([], rest)
    else if is p '\\' then
      match rest with
      | [] => .error (.malformed "Unterminated string starting at" start)
      | e :: rest' => do
        let (q, after) ←
          if is e 'u' then readUnicode rest.length rest'
          else match escaped? e with
            | some q => .ok (q, rest')
            | none => .error (.malformed "Invalid \\escape" (rest.length + 1))
        let (others, after) ← readCharacters start fuel after
        .ok (q :: others, after)
    else if p.val < 32 then .error (.malformed "Invalid control character at" (rest.length + 1))
    else do
      let (others, after) ← readCharacters start fuel rest
      .ok (p :: others, after)

/-- Read a string after its quotation mark. -/
def readString (s : CodePoints) : Except Fault (CodePoints × CodePoints) :=
  readCharacters (s.length + 1) (s.length + 1) s

/-- Words and what they stand for. -/
def words : List (String × Document) :=
  [("null", .null), ("true", .bool true), ("false", .bool false), ("NaN", .float Binary64.nan),
    ("Infinity", .float (.pack false Binary64.infiniteMagnitude)),
    ("-Infinity", .float (.pack true Binary64.infiniteMagnitude))]

/-- A word at the start. -/
def readWord? (s : CodePoints) : Option (Document × CodePoints) :=
  words.findSome? fun (word, document) =>
    let w := CodePoints.ofString word
    if w.isPrefixOf s then some (document, s.drop w.length) else none

def digitsValue (digits : CodePoints) : Nat := digits.foldl (fun n p => n * 10 + (p.val - 48)) 0

/-- The exponent at the start, if there is one. -/
def readExponent? (s : CodePoints) : Option (Int × CodePoints) :=
  match s with
  | e :: rest =>
    if is e 'e' ∨ is e 'E' then
      let (negative, rest) := match rest with
        | sign :: after => if is sign '-' then (true, after) else if is sign '+' then (false, after) else (false, rest)
        | [] => (false, rest)
      let digits := rest.takeWhile isDigit
      if digits.isEmpty then none
      else some (if negative then -(digitsValue digits : Int) else digitsValue digits, rest.drop digits.length)
    else none
  | [] => none

/-- The fraction at the start, if there is one. -/
def readFraction? (s : CodePoints) : Option (CodePoints × CodePoints) :=
  match s with
  | dot :: rest =>
    let digits := rest.takeWhile isDigit
    if is dot '.' ∧ ¬ digits.isEmpty then some (digits, rest.drop digits.length) else none
  | [] => none

/-- How many digits of a whole number are read. -/
def maxDigits : Nat := 4300

/-- The exception that a whole number has more digits than are read. -/
def tooManyDigits (count : Nat) : Raised :=
  .builtin "ValueError" (s!"Exceeds the limit ({maxDigits} digits) for integer string conversion: " ++
    s!"value has {count} digits; use sys.set_int_max_str_digits() to increase the limit")

/-- A number at the start. -/
def readNumber? (s : CodePoints) : Option (Except Fault (Document × CodePoints)) :=
  let (negative, s) := match s with
    | sign :: after => if is sign '-' then (true, after) else (false, s)
    | [] => (false, s)
  let digits := match s with
    | d :: _ => if is d '0' then [d] else s.takeWhile isDigit
    | [] => []
  if digits.isEmpty then none
  else
    let rest := s.drop digits.length
    let (fraction, rest') := (readFraction? rest).getD ([], rest)
    let (exponent, rest'') := (readExponent? rest').getD (0, rest')
    let n := digitsValue (digits ++ fraction)
    if rest''.length = rest.length then
      if maxDigits < digits.length then some (.error (.tooManyDigits digits.length))
      else some (.ok (.int (if negative then -(n : Int) else n), rest))
    else some (.ok (.float (.ofDecimal negative n (exponent - fraction.length)), rest''))

/-- Put an entry before others; a key that occurs again has its last value. -/
def prepend (key : CodePoints) (value : Document) (entries : List (CodePoints × Document)) :
    List (CodePoints × Document) :=
  match entries.find? (·.1 = key) with
  | some last => last :: entries.filter (·.1 ≠ key)
  | none => (key, value) :: entries

mutual

/-- Read a value, with no more than `room` containers around each other. -/
def readValue (room : Nat) : Nat → Reader Document
  | 0, s => .error (.malformed "Expecting value" s.length)
  | fuel + 1, s =>
    match s with
    | [] => .error (.malformed "Expecting value" 0)
    | p :: rest =>
      if is p '"' then (readString rest).map fun (t, rest) => (.text t, rest)
      else if is p '[' then
        if room = 0 then .error (.tooDeep "array") else
        match skipBlanks rest with
        | [] => .error (.malformed "Expecting value" 0)
        | q :: rest' =>
          if is q ']' then .ok (.list [], rest')
          else (readItems (room - 1) fuel (q :: rest')).map fun (items, rest) => (.list items, rest)
      else if is p '\x7b' then
        if room = 0 then .error (.tooDeep "object") else
        match skipBlanks rest with
        | [] => .error (.malformed "Expecting property name enclosed in double quotes" 0)
        | q :: rest' =>
          if is q '\x7d' then .ok (.dict [], rest')
          else (readEntries (room - 1) fuel (q :: rest')).map fun (entries, rest) => (.dict entries, rest)
      else match (readWord? s).map .ok <|> readNumber? s with
        | some result => result
        | none => .error (.malformed "Expecting value" s.length)

/-- Read the items of a list, from the first on. -/
def readItems (room : Nat) : Nat → Reader (List Document)
  | 0, s => .error (.malformed "Expecting value" s.length)
  | fuel + 1, s => do
    let (item, rest) ← readValue room fuel s
    match skipBlanks rest with
    | p :: rest =>
      if is p ']' then .ok ([item], rest)
      else if is p ',' then
        let (items, rest) ← readItems room fuel (skipBlanks rest)
        .ok (item :: items, rest)
      else .error (.malformed "Expecting ',' delimiter" (rest.length + 1))
    | [] => .error (.malformed "Expecting ',' delimiter" 0)

/-- Read the entries of a dictionary, from the first key on. -/
def readEntries (room : Nat) : Nat → Reader (List (CodePoints × Document))
  | 0, s => .error (.malformed "Expecting value" s.length)
  | fuel + 1, s =>
    match s with
    | p :: rest =>
      if is p '"' then do
        let (key, rest) ← readString rest
        match skipBlanks rest with
        | colon :: rest =>
          if is colon ':' then
            let (value, rest) ← readValue room fuel (skipBlanks rest)
            match skipBlanks rest with
            | q :: rest =>
              if is q '\x7d' then .ok ([(key, value)], rest)
              else if is q ',' then
                let (entries, rest) ← readEntries room fuel (skipBlanks rest)
                .ok (prepend key value entries, rest)
              else .error (.malformed "Expecting ',' delimiter" (rest.length + 1))
            | [] => .error (.malformed "Expecting ',' delimiter" 0)
          else .error (.malformed "Expecting ':' delimiter" (rest.length + 1))
        | [] => .error (.malformed "Expecting ':' delimiter" 0)
      else .error (.malformed "Expecting property name enclosed in double quotes" (rest.length + 1))
    | [] => .error (.malformed "Expecting property name enclosed in double quotes" 0)

end

/-- The exception that a text is no document: what is wrong, with the line and the column. -/
def undecodable (s : CodePoints) (message : String) (left : Nat) : Raised :=
  let position := s.length - left
  let before := s.take position
  let line := (before.filter (· = CodePoints.newline)).length + 1
  let column := (before.reverse.takeWhile (· ≠ CodePoints.newline)).length + 1
  .of { name := "JSONDecodeError", moduleName := some "json.decoder" }
    (.ofString s!"{message}: line {line} column {column} (char {position})")

/-- The exception that a text cannot be read. -/
def Fault.raised (s : CodePoints) : Fault → Raised
  | .malformed message left => undecodable s message left
  | .tooManyDigits count => Document.tooManyDigits count
  | .tooDeep kind => .tooManyCalls s!"decoding a JSON {kind} from a unicode string"

/-- How many containers lie around each other in a document that is read or written. -/
def maxDepth : Nat := 996

/-- Read a whole text. -/
def readAll (s : CodePoints) : Except Fault Document := do
  let (document, rest) ← readValue maxDepth (2 * s.length + 2) (skipBlanks s)
  match skipBlanks rest with
  | [] => .ok document
  | rest => .error (.malformed "Extra data" rest.length)

/-- Read a whole text that octets spelled, or raise an exception that says what is wrong and where. -/
def readDecoded (s : CodePoints) : Except Raised Document := (readAll s).mapError (·.raised s)

/-- Read a whole text, or raise an exception that says what is wrong and where. -/
def read (s : CodePoints) : Except Raised Document :=
  match s with
  | 0xfeff :: _ => .error (undecodable s "Unexpected UTF-8 BOM (decode using utf-8-sig)" s.length)
  | _ => readDecoded s

open InterpreterHost.Computation

mutual

/-- A new object for a document. -/
def build : Document → Computation Ref
  | null => newNone
  | bool b => new (.bool b)
  | int i => newInt i
  | float f => new (.float f)
  | text t => new (.str t)
  | list items => do newList (← buildItems items)
  | dict entries => do new (.dict (← buildEntries entries))

def buildItems : List Document → Computation (List Ref)
  | [] => return []
  | d :: items => return (← build d) :: (← buildItems items)

def buildEntries : List (CodePoints × Document) → Computation (List (Ref × Ref))
  | [] => return []
  | (k, d) :: entries => return (← new (.str k), ← build d) :: (← buildEntries entries)

end

end Document

/-! ## Writing -/

/-- How documents are written. -/
structure JsonStyle where
  /-- Whether the entries of dictionaries are written in the order of their keys. -/
  sorted : Bool := false
  /-- What takes too many calls within one another where containers lie too deep. -/
  activity : String := "encoding a JSON object"

namespace Heap

open InterpreterHost.Representation

/-- One code point within the quotation marks of a document, in ASCII. -/
def escapePoint (p : CodePoint) : List Char :=
  let n := p.val
  if n = 34 then ['\\', '"']
  else if n = 92 then ['\\', '\\']
  else if n = 10 then ['\\', 'n']
  else if n = 13 then ['\\', 'r']
  else if n = 9 then ['\\', 't']
  else if n = 8 then ['\\', 'b']
  else if n = 12 then ['\\', 'f']
  else if 32 ≤ n ∧ n < 127 then [Char.ofNat n]
  else if n < 0x10000 then '\\' :: 'u' :: Text.hex 4 n
  else '\\' :: 'u' :: Text.hex 4 (0xd800 + (n - 0x10000) / 0x400) ++
    '\\' :: 'u' :: Text.hex 4 (0xdc00 + (n - 0x10000) % 0x400)

def jsonString (t : CodePoints) : String := String.ofList ('"' :: t.flatMap escapePoint ++ ['"'])

/-- How floats are written in documents. -/
def jsonLayout : Decimal.Layout := { layout with infinity := "Infinity", nan := "NaN" }

/-- A key as a text, if it can be one. -/
def jsonKey? (h : Heap) (r : Ref) : Option CodePoints :=
  match h.object r with
  | .str t => some t
  | .float f => some (.ofString (jsonLayout.render f))
  | .bool b => some (.ofString (if b then "true" else "false"))
  | .none => some (.ofString "null")
  | .int i => some (.ofString (toString i))
  | _ => none

/-- Keys in the order of their code points. -/
def keyLe : CodePoints → CodePoints → Bool
  | [], _ => true
  | _ :: _, [] => false
  | a :: s, b :: t => a < b || (a = b && keyLe s t)

mutual

/-- Write an object, where `active` are the containers around it; the message of a fault has its class first. -/
def writeJson (h : Heap) (style : JsonStyle) : Nat → List Ref → Ref → Except (String × String) String
  | 0, _, _ => .error ("RecursionError", Raised.tooManyCallsMessage style.activity)
  | fuel + 1, active, r =>
    match h.object r with
    | .none => .ok "null"
    | .bool b => .ok (if b then "true" else "false")
    | .int i => .ok (toString i)
    | .float f => .ok (jsonLayout.render f)
    | .str t => .ok (jsonString t)
    | .list items => writeJsonList h style fuel active r items
    | .tuple items => writeJsonList h style fuel active r items
    | .dict entries =>
      if active.contains r then .error ("ValueError", "Circular reference detected")
      else do
        let keyed ← entries.mapM fun e =>
          match h.jsonKey? e.1 with
          | some k => .ok (k, e.2)
          | none =>
            .error ("TypeError", s!"keys must be str, int, float, bool or None, not {h.typeName e.1}")
        let ordered := if style.sorted then keyed.mergeSort fun a b => keyLe a.1 b.1 else keyed
        let texts ← writeJsonEntries h style fuel (r :: active) ordered
        .ok ("\x7b" ++ ", ".intercalate texts ++ "\x7d")
    | _ => .error ("TypeError", s!"Object of type {h.shortTypeName r} is not JSON serializable")

def writeJsonList (h : Heap) (style : JsonStyle) (fuel : Nat) (active : List Ref) (r : Ref) (items : List Ref) :
    Except (String × String) String :=
  if active.contains r then .error ("ValueError", "Circular reference detected")
  else do
    let texts ← writeJsonItems h style fuel (r :: active) items
    .ok ("[" ++ ", ".intercalate texts ++ "]")

def writeJsonItems (h : Heap) (style : JsonStyle) (fuel : Nat) (active : List Ref) :
    List Ref → Except (String × String) (List String)
  | [] => .ok []
  | r :: rest => do
    let text ← writeJson h style fuel active r
    .ok (text :: (← writeJsonItems h style fuel active rest))

def writeJsonEntries (h : Heap) (style : JsonStyle) (fuel : Nat) (active : List Ref) :
    List (CodePoints × Ref) → Except (String × String) (List String)
  | [] => .ok []
  | (k, r) :: rest => do
    let text ← writeJson h style fuel active r
    .ok ((jsonString k ++ ": " ++ text) :: (← writeJsonEntries h style fuel active rest))

end

/-- Write an object. -/
def jsonText (h : Heap) (style : JsonStyle) (r : Ref) : Except (String × String) String :=
  h.writeJson style (Document.maxDepth + 1) [] r

end Heap

end InterpreterHost
