import InterpreterHost.Interpreter.Document

/-!
# Numbers and octets written as texts

What the interpreter reads as a whole number and as octets in hexadecimal.

## Main definitions

* `Literal.integer` — a whole number in digits of any script
* `Literal.octets` — octets in pairs of hexadecimal digits
* `Literal.hexOctets`, `Literal.hexFloat` — the same for texts that are known to be well formed

## Design notes

A text that is all ASCII is taken as it is.  In any other text, digits and blanks of all scripts count as those of
ASCII, and a letter of another script counts as none.
-/

namespace InterpreterHost.Literal

/-- The zeros of all scripts but ASCII; each is followed by the other nine digits of its script. -/
def zeros : List Nat := [
  0x660, 0x6f0, 0x7c0, 0x966, 0x9e6, 0xa66, 0xae6, 0xb66, 0xbe6, 0xc66, 0xce6, 0xd66, 0xde6, 0xe50, 0xed0,
  0xf20, 0x1040, 0x1090, 0x17e0, 0x1810, 0x1946, 0x19d0, 0x1a80, 0x1a90, 0x1b50, 0x1bb0, 0x1c40, 0x1c50,
  0xa620, 0xa8d0, 0xa900, 0xa9d0, 0xa9f0, 0xaa50, 0xabf0, 0xff10, 0x104a0, 0x10d30, 0x11066, 0x110f0, 0x11136,
  0x111d0, 0x112f0, 0x11450, 0x114d0, 0x11650, 0x116c0, 0x11730, 0x118e0, 0x11950, 0x11c50, 0x11d50, 0x11da0,
  0x16a60, 0x16ac0, 0x16b50, 0x1d7ce, 0x1d7d8, 0x1d7e2, 0x1d7ec, 0x1d7f6, 0x1e140, 0x1e2f0, 0x1e950, 0x1fbf0]

/-- The value of a digit of a script other than ASCII. -/
def digit? (p : CodePoint) : Option Nat :=
  (zeros.find? fun start => start ≤ p.val && p.val < start + 10).map (p.val - ·)

/-- A text with digits and blanks written in ASCII, up to the first letter of another script. -/
def transcribe : CodePoints → CodePoints
  | [] => []
  | p :: rest =>
    if p.val < 127 then p :: transcribe rest
    else if SourcePlace.isBlank p then CodePoints.space :: transcribe rest
    else match digit? p with
      | some d => .ofNat (48 + d) :: transcribe rest
      | none => .ofString "?"

/-- The blanks of ASCII. -/
def isSpace (p : CodePoint) : Bool := p = CodePoints.space || (9 ≤ p.val && p.val ≤ 13)

/-- A text without blanks at either end. -/
def strip (t : CodePoints) : CodePoints := ((t.dropWhile isSpace).reverse.dropWhile isSpace).reverse

/-- The digits of a text of digits that may stand in groups with an underscore between them. -/
def digits? : CodePoints → Option CodePoints
  | [] => none
  | [p] => if Document.isDigit p then some [p] else none
  | p :: q :: rest =>
    if !Document.isDigit p then none
    else if Document.is q '_' then (digits? rest).map (p :: ·)
    else (digits? (q :: rest)).map (p :: ·)

/-- How many characters of a text are shown that is no number. -/
def maxShown : Nat := 200

/-- The words that something is no whole number. -/
def malformed (representation : String) : Raised :=
  let shown := String.ofList (representation.toList.take maxShown)
  .builtin "ValueError" s!"invalid literal for int() with base 10: {shown}"

/-- The whole number that a text in ASCII spells; `representation` is how that which spells it is written. -/
def integerIn (representation : String) (t : CodePoints) : Except Raised Int :=
  let text := strip t
  let (negative, unsigned) := match text with
    | sign :: rest =>
      if Document.is sign '-' then (true, rest) else if Document.is sign '+' then (false, rest) else (false, text)
    | [] => (false, text)
  match digits? unsigned with
  | none => .error (malformed representation)
  | some digits =>
    if Document.maxDigits < digits.length then .error (Document.tooManyDigits digits.length)
    else
      let n := Document.digitsValue digits
      .ok (if negative then -(n : Int) else n)

/-- The whole number that a text spells. -/
def integer (t : CodePoints) : Except Raised Int :=
  integerIn (Representation.quote t) (if t.all (·.val < 128) then t else transcribe t)

/-- The whole number that octets spell. -/
def integerOfOctets (content : Octets) : Except Raised Int :=
  integerIn (Representation.quoteOctets (Representation.octetMark content) content)
    (content.map fun b => .ofNat b.toNat)

/-- The whole number that a double is cut to. -/
def truncated (f : Binary64) : Except Raised Int :=
  if f.isNaN then .error (.builtin "ValueError" "cannot convert float NaN to integer")
  else if f.isInfinite then .error (.builtin "OverflowError" "cannot convert float infinity to integer")
  else
    let (num, den) := f.ratio
    .ok (if f.isNegative then -(num / den : Nat) else (num / den : Nat))

/-- The words that a text holds something that is no hexadecimal digit. -/
def notHex (position : Nat) : Raised :=
  .builtin "ValueError" s!"non-hexadecimal number found in fromhex() arg at position {position}"

/-- The octets in the rest of a text of `total` characters; blanks may stand between them. -/
def octetsFrom (total : Nat) : CodePoints → Except Raised Octets
  | [] => .ok []
  | p :: rest =>
    if isSpace p then octetsFrom total rest
    else match Document.hexDigit? p, rest with
      | none, _ => .error (notHex (total - rest.length - 1))
      | some _, [] => .error (notHex total)
      | some high, q :: rest' =>
        match Document.hexDigit? q with
        | none => .error (notHex (total - rest'.length - 1))
        | some low => (octetsFrom total rest').map (UInt8.ofNat (high * 16 + low) :: ·)

/-- The octets that a text spells in hexadecimal. -/
def octets (t : CodePoints) : Except Raised Octets :=
  let ascii := t.takeWhile (·.val < 128)
  if ascii.length < t.length then .error (notHex ascii.length) else octetsFrom t.length t

/-- The octets that a text of hexadecimal digits spells. -/
def hexOctets (t : CodePoints) : Octets := (octets t).toOption.getD []

/-- The double with bits in the order of their weight. -/
def floatOfOctets (content : Octets) : Binary64 := ⟨UInt64.ofNat (content.foldl (fun n b => n * 256 + b.toNat) 0)⟩

/-- The double with the bits that a text spells in hexadecimal, or NaN. -/
def hexFloat (t : CodePoints) : Binary64 :=
  if t = .ofString "nan" then Binary64.nan else floatOfOctets (hexOctets t)

end InterpreterHost.Literal
