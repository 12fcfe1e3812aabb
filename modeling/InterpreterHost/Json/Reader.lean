import InterpreterHost.Json
import InterpreterHost.Json.Fault

/-!
# Reading JSON

## Main definitions

* `Json.readValue` — read a document from the start of a text
* `Json.read` — read a text that holds one document and nothing else
* `Json.readElements`, `Json.readMembers` — the insides of containers, for readers of any content

## Design notes

The nesting of containers is bounded, so `readValue` recurses on how many more containers it may enter; the loops
over items and entries carry the length of the text as fuel, and each round reads at least one character.
-/

namespace InterpreterHost.Json

/-- How many containers may lie within one another. -/
def maxNesting : Nat := 127

def isBlank (c : Char) : Bool := c == ' ' || c == '\n' || c == '\t' || c == '\r'

/-- Without the blanks at the start. -/
def skipBlanks (s : List Char) : List Char := s.dropWhile isBlank

/-- Read the given word. -/
def readWord : List Char → List Char → Except Refusal (List Char)
  | [], s => .ok s
  | _ :: _, [] => here .endInValue []
  | w :: word, c :: s => if c = w then readWord word s else next .expectedWord (c :: s)

/-! ## Strings -/

def hexDigit? (c : Char) : Option Nat :=
  let n := c.toNat
  if 48 ≤ n ∧ n ≤ 57 then some (n - 48)
  else if 97 ≤ n ∧ n ≤ 102 then some (n - 87)
  else if 65 ≤ n ∧ n ≤ 70 then some (n - 55)
  else none

/-- Four digits of base sixteen.  The four are counted in octets. -/
def readHex4 (s : List Char) : Except Refusal (Nat × List Char) :=
  if Utf8.size (s.take 4) < 4 then .error ⟨.endInString, 0⟩
  else
    match s with
    | a :: b :: c :: d :: rest =>
      match hexDigit? a, hexDigit? b, hexDigit? c, hexDigit? d with
      | some a, some b, some c, some d => .ok (((a * 16 + b) * 16 + c) * 16 + d, rest)
      | _, _, _, _ => .error ⟨.invalidEscape, Utf8.size s - 4⟩
    | _ => .error ⟨.invalidEscape, Utf8.size s - 4⟩

def isLeadingSurrogate (n : Nat) : Bool := 0xd800 ≤ n && n < 0xdc00
def isTrailingSurrogate (n : Nat) : Bool := 0xdc00 ≤ n && n < 0xe000

/-- The character of an escape after `\u`; two escapes that spell a surrogate pair are one character. -/
def readUnicodeEscape (s : List Char) : Except Refusal (Char × List Char) := do
  let (n, rest) ← readHex4 s
  if isTrailingSurrogate n then here .loneSurrogate rest
  else if isLeadingSurrogate n then
    match rest with
    | [] => here .endInString []
    | '\\' :: rest =>
      match rest with
      | [] => here .endInString []
      | 'u' :: rest =>
        let (m, rest) ← readHex4 rest
        if isTrailingSurrogate m then
          .ok (Char.ofNat (0x10000 + (n - 0xd800) * 0x400 + (m - 0xdc00)), rest)
        else here .loneSurrogate rest
      | rest => next .unfinishedSurrogatePair rest
    | rest => next .unfinishedSurrogatePair rest
  else .ok (Char.ofNat n, rest)

/-- The character of an escape after the backslash. -/
def readEscape (s : List Char) : Except Refusal (Char × List Char) :=
  match s with
  | [] => here .endInString []
  | '"' :: rest => .ok ('"', rest)
  | '\\' :: rest => .ok ('\\', rest)
  | '/' :: rest => .ok ('/', rest)
  | 'b' :: rest => .ok ('\x08', rest)
  | 'f' :: rest => .ok ('\x0c', rest)
  | 'n' :: rest => .ok ('\n', rest)
  | 'r' :: rest => .ok ('\r', rest)
  | 't' :: rest => .ok ('\t', rest)
  | 'u' :: rest => readUnicodeEscape rest
  | _ => next .invalidEscape s

/-- The next character of a string, or nothing at its closing quote. -/
def readChar (s : List Char) : Except Refusal (Option Char × List Char) :=
  match s with
  | [] => here .endInString []
  | '"' :: rest => .ok (none, rest)
  | '\\' :: rest => (readEscape rest).map fun p => (some p.1, p.2)
  | c :: rest => if c.toNat < 0x20 then here .controlCharacter rest else .ok (some c, rest)

/-- The characters up to the closing quote. -/
def readCharsAux : Nat → List Char → Except Refusal (List Char × List Char)
  | 0, s => here .endInString s
  | fuel + 1, s => do
    match ← readChar s with
    | (none, rest) => .ok ([], rest)
    | (some c, rest) =>
      let (chars, rest) ← readCharsAux fuel rest
      .ok (c :: chars, rest)

/-- A string after its opening quote. -/
def readString : Reader String := fun s =>
  (readCharsAux (s.length + 1) s).map fun p => (String.ofList p.1, p.2)

/-! ## Numbers -/

/-- The digits at the start and the rest. -/
def spanDigits (s : List Char) : List Char × List Char := s.span Char.isDigit

/-- The number that digits spell. -/
def digitsValue (digits : List Char) : Nat := digits.foldl (fun n c => n * 10 + (c.toNat - 48)) 0

/-- The greatest exponent that is read as a number. -/
def maxExponent : Nat := 2147483647

/-- The digits of an exponent.  One beyond `maxExponent` makes zero, or, if `overflow` says so, a number out of
range: then the answer is nothing. -/
def readExponentDigits (overflow : Bool) : Nat → List Char → Except Refusal (Option Nat × List Char)
  | n, [] => .ok (some n, [])
  | n, c :: rest =>
    if c.isDigit then
      let m := n * 10 + (c.toNat - 48)
      if maxExponent < m then
        if overflow then here .numberOutOfRange rest else .ok (none, rest.dropWhile Char.isDigit)
      else readExponentDigits overflow m rest
    else .ok (some n, c :: rest)

/-- The exponent after its letter, for a significand that is zero or not; nothing if it makes the number zero. -/
def readExponent (isZero : Bool) (s : List Char) : Except Refusal (Option Int × List Char) :=
  let (negative, s) :=
    match s with
    | '+' :: rest => (false, rest)
    | '-' :: rest => (true, rest)
    | s => (false, s)
  match s with
  | [] => here .endInValue []
  | c :: rest =>
    if c.isDigit then do
      let (n, rest) ← readExponentDigits (!isZero && !negative) (c.toNat - 48) rest
      .ok (n.map fun n => if negative then -(n : Int) else n, rest)
    else next .invalidNumber (c :: rest)

/-- A double in range. -/
def finiteFloat (f : Binary64) (rest : List Char) : Except Refusal (Json × List Char) :=
  if f.isInfinite then here .numberOutOfRange rest else .ok (.float f, rest)

/-- The exponent of a number if it has one, and its double. -/
def readFloatEnd (negative : Bool) (digits : Nat) (exponent : Int) (s : List Char) :
    Except Refusal (Json × List Char) :=
  match s with
  | c :: rest =>
    if c = 'e' ∨ c = 'E' then do
      match ← readExponent (digits = 0) rest with
      | (some e, rest) => finiteFloat (Binary64.ofDecimal negative digits (exponent + e)) rest
      | (none, rest) => .ok (.float (Binary64.pack negative 0), rest)
    else finiteFloat (Binary64.ofDecimal negative digits exponent) s
  | [] => finiteFloat (Binary64.ofDecimal negative digits exponent) s

/-- A number without fraction and exponent: an integer if it fits a word and is not minus zero. -/
def integerOrFloat (negative : Bool) (n : Nat) (rest : List Char) : Except Refusal (Json × List Char) :=
  if negative then
    if n ≠ 0 ∧ n ≤ 0x8000000000000000 then .ok (.integer (-(n : Int)), rest)
    else finiteFloat (Binary64.ofDecimal true n 0) rest
  else if n < 0x10000000000000000 then .ok (.integer n, rest)
  else finiteFloat (Binary64.ofDecimal false n 0) rest

/-- A number after its integer digits. -/
def readNumberEnd (negative : Bool) (digits s : List Char) : Except Refusal (Json × List Char) :=
  match s with
  | '.' :: rest =>
    let (fraction, rest) := spanDigits rest
    if fraction.isEmpty then
      if rest.isEmpty then here .endInValue [] else next .invalidNumber rest
    else readFloatEnd negative (digitsValue (digits ++ fraction)) (-(fraction.length : Int)) rest
  | c :: _ =>
    if c = 'e' ∨ c = 'E' then readFloatEnd negative (digitsValue digits) 0 s
    else integerOrFloat negative (digitsValue digits) s
  | [] => integerOrFloat negative (digitsValue digits) s

/-- A number after its sign. -/
def readNumber (negative : Bool) (s : List Char) : Except Refusal (Json × List Char) :=
  match s with
  | [] => here .endInValue []
  | '0' :: rest =>
    match rest with
    | c :: _ => if c.isDigit then next .invalidNumber rest else readNumberEnd negative ['0'] rest
    | [] => readNumberEnd negative ['0'] []
  | c :: _ =>
    if c.isDigit then
      let (digits, rest) := spanDigits s
      readNumberEnd negative digits rest
    else next .invalidNumber s

/-! ## Containers -/

/-- The items of a list after its opening bracket, or after an item, up to and with the closing bracket. -/
def readElementsAux (item : Reader α) : Nat → Bool → Reader (List α)
  | 0, _, s => here .endInList s
  | fuel + 1, first, s =>
    match skipBlanks s with
    | [] => here .endInList []
    | ']' :: rest => .ok ([], rest)
    | c :: rest =>
      let start : Except Refusal (List Char) :=
        if first then .ok (c :: rest)
        else if c = ',' then
          match skipBlanks rest with
          | [] => here .endInValue []
          | ']' :: rest => next .trailingComma (']' :: rest)
          | s => .ok s
        else next .expectedCommaOrBracket (c :: rest)
      do
        let (v, rest) ← item (← start)
        let (items, rest) ← readElementsAux item fuel false rest
        .ok (v :: items, rest)

/-- The items of a list after its opening bracket, up to and with the closing bracket. -/
def readElements (item : Reader α) : Reader (List α) := fun s =>
  readElementsAux item (s.length + 1) true s

/-- The colon after a key. -/
def readColon (s : List Char) : Except Refusal (List Char) :=
  match skipBlanks s with
  | [] => here .endInObject []
  | ':' :: rest => .ok rest
  | s => next .expectedColon s

/-- The entries of an object after its opening brace, or after an entry, up to and with the closing brace.  After
each key, `member` reads on from before the colon and takes the key into account. -/
def readMembersAux (member : String → σ → Reader σ) : Nat → Bool → σ → Reader σ
  | 0, _, _, s => here .endInObject s
  | fuel + 1, first, acc, s =>
    match skipBlanks s with
    | [] => here .endInObject []
    | '\x7d' :: rest => .ok (acc, rest)
    | c :: rest =>
      let start : Except Refusal (List Char) :=
        if first then if c = '"' then .ok rest else next .expectedKey (c :: rest)
        else if c = ',' then
          match skipBlanks rest with
          | [] => here .endInValue []
          | '"' :: rest => .ok rest
          | '\x7d' :: rest => next .trailingComma ('\x7d' :: rest)
          | s => next .expectedKey s
        else next .expectedCommaOrBrace (c :: rest)
      do
        let (key, rest) ← readString (← start)
        let (acc, rest) ← member key acc rest
        readMembersAux member fuel false acc rest

/-- The entries of an object after its opening brace, up to and with the closing brace. -/
def readMembers (member : String → σ → Reader σ) (acc : σ) : Reader σ := fun s =>
  readMembersAux member (s.length + 1) true acc s

/-- The value of an entry, bound to its key in place of an earlier value. -/
def readEntry (value : Reader Json) (key : String) (acc : Entries Json) : Reader (Entries Json) := fun s => do
  let (v, rest) ← value (← readColon s)
  .ok (acc.insert key v, rest)

/-! ## Documents -/

/-- A document that enters at most `depth` containers within one another. -/
def readValue (depth : Nat) : Reader Json := fun s =>
  match skipBlanks s with
  | [] => here .endInValue []
  | 'n' :: rest => (readWord "ull".toList rest).map (.null, ·)
  | 't' :: rest => (readWord "rue".toList rest).map (.bool true, ·)
  | 'f' :: rest => (readWord "alse".toList rest).map (.bool false, ·)
  | '-' :: rest => readNumber true rest
  | '"' :: rest => (readString rest).map fun p => (.string p.1, p.2)
  | '[' :: rest =>
    match depth with
    | 0 => next .tooDeep ('[' :: rest)
    | depth + 1 => (readElements (readValue depth) rest).map fun p => (.array p.1, p.2)
  | '\x7b' :: rest =>
    match depth with
    | 0 => next .tooDeep ('\x7b' :: rest)
    | depth + 1 => (readMembers (readEntry (readValue depth)) [] rest).map fun p => (.object p.1, p.2)
  | c :: rest => if c.isDigit then readNumber false (c :: rest) else next .expectedValue (c :: rest)

/-- Read all of a text. -/
def readAll (reader : Reader α) (text : String) : Except ReadError α :=
  let chars := text.toList
  let result : Except Refusal α := do
    let (v, rest) ← reader chars
    match skipBlanks rest with
    | [] => .ok v
    | s => next .trailingCharacters s
  result.mapError (Refusal.locate chars)

/-- Read a text that holds one document. -/
def read (text : String) : Except ReadError Json := readAll (readValue maxNesting) text

end InterpreterHost.Json
