import InterpreterHost.Text.Utf8

/-!
# Faults of JSON texts

Why a text is not the JSON document that was asked for, and where in the text that showed.

## Main definitions

* `Json.Fault` — what is wrong
* `Json.Refusal` — a fault, with the number of octets that were not read yet
* `Json.ReadError` — a fault, with the line and the column
* `Json.ReadError.message` — the error in words

## Design notes

A reader of a list of characters sees the rest of the text and not its start.  So a refusal counts from the end;
`Refusal.locate` turns that into a line and a column once the whole text is at hand.  Columns count octets.
-/

namespace InterpreterHost.Json

/-- What is wrong with a text. -/
inductive Fault where
  | endInValue
  | endInList
  | endInObject
  | endInString
  | expectedValue
  | expectedWord
  | expectedColon
  | expectedCommaOrBracket
  | expectedCommaOrBrace
  | expectedKey
  | trailingComma
  | trailingCharacters
  | invalidNumber
  | numberOutOfRange
  | invalidEscape
  | controlCharacter
  | loneSurrogate
  | unfinishedSurrogatePair
  | tooDeep
  /-- A document of another type than the expected one. -/
  | invalidType (found expected : String)
  /-- A number outside of the expected range. -/
  | invalidValue (found expected : String)
  | duplicateField (name : String)
deriving DecidableEq, Repr

/-- The fault in words. -/
def Fault.message : Fault → String
  | endInValue => "EOF while parsing a value"
  | endInList => "EOF while parsing a list"
  | endInObject => "EOF while parsing an object"
  | endInString => "EOF while parsing a string"
  | expectedValue => "expected value"
  | expectedWord => "expected ident"
  | expectedColon => "expected `:`"
  | expectedCommaOrBracket => "expected `,` or `]`"
  | expectedCommaOrBrace => "expected `,` or `\x7d`"
  | expectedKey => "key must be a string"
  | trailingComma => "trailing comma"
  | trailingCharacters => "trailing characters"
  | invalidNumber => "invalid number"
  | numberOutOfRange => "number out of range"
  | invalidEscape => "invalid escape"
  | controlCharacter => "control character (\\u0000-\\u001F) found while parsing a string"
  | loneSurrogate => "lone leading surrogate in hex escape"
  | unfinishedSurrogatePair => "unexpected end of hex escape"
  | tooDeep => "recursion limit exceeded"
  | invalidType found expected => "invalid type: " ++ found ++ ", expected " ++ expected
  | invalidValue found expected => "invalid value: " ++ found ++ ", expected " ++ expected
  | duplicateField name => "duplicate field `" ++ name ++ "`"

/-- A fault and the number of octets after the place where it showed. -/
structure Refusal where
  fault : Fault
  unread : Nat
deriving DecidableEq, Repr

/-- A fault and the line and column where it showed. -/
structure ReadError where
  fault : Fault
  line : Nat
  column : Nat
deriving DecidableEq, Repr

/-- The error in words. -/
def ReadError.message (e : ReadError) : String :=
  e.fault.message ++ s!" at line {e.line} column {e.column}"

/-- The place of a refusal in its text: the line, and the octets read of that line. -/
def Refusal.locate (text : List Char) (r : Refusal) : ReadError :=
  let octets := Utf8.encode text
  let read := octets.take (octets.length - r.unread)
  ⟨r.fault, 1 + read.count 10, (read.reverse.takeWhile (· ≠ 10)).length⟩

/-- A reader gives what it read and the rest of the text. -/
abbrev Reader (α : Type) := List Char → Except Refusal (α × List Char)

/-- Refuse with the place before the rest. -/
def here (fault : Fault) (rest : List Char) : Except Refusal α := .error ⟨fault, Utf8.size rest⟩

/-- Refuse with the place behind the next octet, if there is one. -/
def next (fault : Fault) (rest : List Char) : Except Refusal α := .error ⟨fault, Utf8.size rest - 1⟩

end InterpreterHost.Json
