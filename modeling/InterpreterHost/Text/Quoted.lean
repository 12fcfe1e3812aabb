import InterpreterHost.Text.Printable

/-!
# Quoted text

The quoted form of a text in debugging output: between double quotes, with every character that would not be
seen, would break the quotes or would attach to the character before it written as an escape.

## Main definitions

* `Text.quote` — the quoted form
-/

namespace InterpreterHost.Text

/-- A natural number in base sixteen, in at least `width` lower-case digits. -/
def hex (width n : Nat) : List Char :=
  let digits := (Nat.toDigits 16 n)
  List.replicate (width - digits.length) '0' ++ digits

/-- Whether a character would not be seen within quotes, or not as a character of its own. -/
def isObscure (c : Nat) : Bool :=
  !isPrintable c || isIgnorable c || (extendsGrapheme c && !isHalfwidthMark c)

/-- One character within quotes. -/
def quoteChar (c : Char) : List Char :=
  match c with
  | '\x00' => ['\\', '0']
  | '\t' => ['\\', 't']
  | '\r' => ['\\', 'r']
  | '\n' => ['\\', 'n']
  | '"' => ['\\', '"']
  | '\\' => ['\\', '\\']
  | c =>
    if isObscure c.toNat then
      ['\\', 'u', '\x7b'] ++ hex 1 c.toNat ++ ['\x7d']
    else [c]

/-- The text between double quotes, with escapes. -/
def quote (s : String) : String :=
  String.ofList ('"' :: s.toList.flatMap quoteChar ++ ['"'])

end InterpreterHost.Text
