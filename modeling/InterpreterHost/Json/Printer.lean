import InterpreterHost.Decimal.Layout
import InterpreterHost.Json
import InterpreterHost.Text.Quoted

/-!
# Writing JSON

## Main definitions

* `Json.layout` — how doubles are written
* `Json.compact` — the text of a document without blanks
* `Json.pretty` — the text of a document with one entry a line

## Design notes

Texts are built as lists of characters, on which the reader works as well.  The entries of an object are written in
the order in which they are listed.
-/

namespace InterpreterHost.Json

/-- Doubles keep a fraction and use an exponent outside of `1e-5` to `1e16`. -/
def layout : Decimal.Layout where
  lowest := some (-5)
  highest := some 16
  keepFraction := true
  exponentDigits := 1
  infinity := "inf"
  nan := "NaN"

/-- One character within a string. -/
def escapeChar (c : Char) : List Char :=
  match c with
  | '"' => ['\\', '"']
  | '\\' => ['\\', '\\']
  | '\x08' => ['\\', 'b']
  | '\x0c' => ['\\', 'f']
  | '\n' => ['\\', 'n']
  | '\r' => ['\\', 'r']
  | '\t' => ['\\', 't']
  | c => if c.toNat < 0x20 then ['\\', 'u'] ++ Text.hex 4 c.toNat else [c]

/-- A string in quotes. -/
def stringChars (s : String) : List Char := '"' :: s.toList.flatMap escapeChar ++ ['"']

/-- A number, the text of a double being the shortest that reads back.  A double that is not finite has no text in
JSON and is written as `null`. -/
def floatChars (f : Binary64) : List Char := if f.isFinite then (layout.render f).toList else "null".toList

mutual

/-- The text of a document without blanks. -/
def compactChars : Json → List Char
  | null => "null".toList
  | bool b => (if b then "true" else "false").toList
  | integer i => (toString i).toList
  | float f => floatChars f
  | string s => stringChars s
  | array [] => ['[', ']']
  | array (v :: items) => '[' :: compactChars v ++ compactItems items
  | object [] => ['\x7b', '\x7d']
  | object ((k, v) :: entries) => '\x7b' :: stringChars k ++ ':' :: compactChars v ++ compactEntries entries

/-- The items after the first, and the closing bracket. -/
def compactItems : List Json → List Char
  | [] => [']']
  | v :: items => ',' :: compactChars v ++ compactItems items

/-- The entries after the first, and the closing brace. -/
def compactEntries : List (String × Json) → List Char
  | [] => ['\x7d']
  | (k, v) :: entries => ',' :: stringChars k ++ ':' :: compactChars v ++ compactEntries entries

end

/-- The text of a document without blanks. -/
def compact (v : Json) : String := String.ofList (compactChars v)

/-- A new line and the indentation of a level. -/
def lineBreak (level : Nat) : List Char := '\n' :: List.replicate (2 * level) ' '

mutual

/-- The text of a document with one entry a line, at a level of indentation. -/
def prettyChars (level : Nat) : Json → List Char
  | array [] => ['[', ']']
  | array (v :: items) =>
    '[' :: lineBreak (level + 1) ++ prettyChars (level + 1) v ++ prettyItems level items
  | object [] => ['\x7b', '\x7d']
  | object ((k, v) :: entries) =>
    '\x7b' :: lineBreak (level + 1) ++ stringChars k ++ [':', ' '] ++ prettyChars (level + 1) v ++
      prettyEntries level entries
  | v => compactChars v

/-- The items after the first, and the closing bracket. -/
def prettyItems (level : Nat) : List Json → List Char
  | [] => lineBreak level ++ [']']
  | v :: items => ',' :: lineBreak (level + 1) ++ prettyChars (level + 1) v ++ prettyItems level items

/-- The entries after the first, and the closing brace. -/
def prettyEntries (level : Nat) : List (String × Json) → List Char
  | [] => lineBreak level ++ ['\x7d']
  | (k, v) :: entries =>
    ',' :: lineBreak (level + 1) ++ stringChars k ++ [':', ' '] ++ prettyChars (level + 1) v ++
      prettyEntries level entries

end

/-- The text of a document with one entry a line. -/
def pretty (v : Json) : String := String.ofList (prettyChars 0 v)

end InterpreterHost.Json
