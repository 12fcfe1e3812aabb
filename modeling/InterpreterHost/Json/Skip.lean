import InterpreterHost.Json.Reader

/-!
# Skipping JSON

A value that nobody asked for is passed over without being built.  Its form is checked, with faults of its own: numbers
are not tested for their range, escapes not for what they spell, and containers nest without bound.

## Main definitions

* `Json.skipValue` — pass over a document
-/

namespace InterpreterHost.Json

/-- Pass over an escape after the backslash. -/
def skipEscape (s : List Char) : Except Refusal (List Char) :=
  match s with
  | [] => here .endInString []
  | c :: rest =>
    if c = 'u' then (readHex4 rest).map (·.2)
    else if "\"\\/bfnrt".toList.contains c then .ok rest
    else next .invalidEscape s

/-- Pass over the characters of a string and its closing quote. -/
def skipString : Nat → List Char → Except Refusal (List Char)
  | 0, s => here .endInString s
  | _ + 1, [] => here .endInString []
  | fuel + 1, c :: rest =>
    if c = '"' then .ok rest
    else if c = '\\' then do skipString fuel (← skipEscape rest)
    else if c.toNat < 0x20 then here .controlCharacter (c :: rest)
    else skipString fuel rest

/-- Pass over an exponent after its letter. -/
def skipExponent (s : List Char) : Except Refusal (List Char) :=
  let s :=
    match s with
    | '+' :: rest => rest
    | '-' :: rest => rest
    | s => s
  match s with
  | [] => here .invalidNumber []
  | c :: rest => if c.isDigit then .ok (rest.dropWhile Char.isDigit) else next .invalidNumber (c :: rest)

/-- Pass over an exponent if one follows. -/
def skipExponent? (s : List Char) : Except Refusal (List Char) :=
  match s with
  | [] => .ok []
  | c :: rest => if c = 'e' ∨ c = 'E' then skipExponent rest else .ok s

/-- Pass over a fraction and an exponent, if they follow. -/
def skipNumberEnd (s : List Char) : Except Refusal (List Char) :=
  match s with
  | '.' :: rest =>
    let (fraction, rest) := spanDigits rest
    if fraction.isEmpty then next .invalidNumber rest else skipExponent? rest
  | s => skipExponent? s

/-- Pass over a number after its sign. -/
def skipNumber (s : List Char) : Except Refusal (List Char) :=
  match s with
  | [] => here .invalidNumber []
  | c :: rest =>
    if c = '0' then
      match rest with
      | d :: _ => if d.isDigit then next .invalidNumber rest else skipNumberEnd rest
      | [] => .ok []
    else if c.isDigit then skipNumberEnd (rest.dropWhile Char.isDigit)
    else next .invalidNumber s

/-- The fault of a container that does not end. -/
def unclosed (isObject : Bool) : Fault := if isObject then .endInObject else .endInList

/-- Pass over a key and its colon. -/
def skipKey (s : List Char) : Except Refusal (List Char) :=
  match skipBlanks s with
  | [] => here .endInObject []
  | '"' :: rest => do readColon (← skipString (rest.length + 1) rest)
  | s => next .expectedKey s

mutual

/-- Pass over a document. -/
def skipValueAux : Nat → List Char → Except Refusal (List Char)
  | 0, s => here .endInValue s
  | fuel + 1, s =>
    match skipBlanks s with
    | [] => here .endInValue []
    | 'n' :: rest => readWord "ull".toList rest
    | 't' :: rest => readWord "rue".toList rest
    | 'f' :: rest => readWord "alse".toList rest
    | '-' :: rest => skipNumber rest
    | '"' :: rest => skipString (rest.length + 1) rest
    | '[' :: rest => skipInside false true fuel rest
    | '\x7b' :: rest => skipInside true true fuel rest
    | c :: rest => if c.isDigit then skipNumber (c :: rest) else next .expectedValue (c :: rest)

/-- Pass over the inside of a container, after its opening or after an item, and its closing. -/
def skipInside (isObject first : Bool) : Nat → List Char → Except Refusal (List Char)
  | 0, s => here (unclosed isObject) s
  | fuel + 1, s =>
    match skipBlanks s with
    | [] => here (unclosed isObject) []
    | c :: rest =>
      if c = (if isObject then '\x7d' else ']') then .ok rest
      else do
        let s ←
          if first then .ok (c :: rest)
          else if c = ',' then .ok rest
          else next (if isObject then .expectedCommaOrBrace else .expectedCommaOrBracket) (c :: rest)
        let s ← if isObject then skipKey s else .ok s
        skipInside isObject false fuel (← skipValueAux fuel s)

end

/-- Pass over a document. -/
def skipValue (s : List Char) : Except Refusal (List Char) := skipValueAux (2 * s.length + 2) s

end InterpreterHost.Json
