import InterpreterHost.Interpreter.Raised
import InterpreterHost.Text.Utf8

/-!
# Octets as texts of the interpreter

Octets are read as UTF-8.  Those of a document may spell it in UTF-16 or UTF-32 as well, which shows at their start,
and may spell surrogates that stand alone.

## Main definitions

* `Encoding.decode` — the text that octets spell in UTF-8
* `Encoding.ofStart` — how the octets of a document spell it
* `Encoding.decodeDocument` — the text of a document
-/

namespace InterpreterHost

/-- How the octets of a document spell it. -/
inductive Encoding where
  | utf8
  | utf16 (bigEndian : Bool)
  | utf32 (bigEndian : Bool)
deriving DecidableEq, Repr

namespace Encoding

/-! ## UTF-8 -/

/-- The exception that octets are no text, from the place `start` to the place `last`. -/
def undecodable (encoding : String) (content : Octets) (start last : Nat) (reason : String) : Raised :=
  .builtin "UnicodeDecodeError" <|
    if last = start then
      let code := String.ofList (Text.hex 2 (content.getD start 0).toNat)
      s!"'{encoding}' codec can't decode byte 0x{code} in position {start}: {reason}"
    else s!"'{encoding}' codec can't decode bytes in position {start}-{last}: {reason}"

/-- The exception that octets are no text in UTF-8. -/
def malformed (content : Octets) (f : Utf8.Fault) : Raised :=
  let first := content.getD f.start 0
  let hasStart := 0xc2 ≤ first ∧ first < 0xf5
  match f.length with
  | some n =>
    undecodable "utf-8" content f.start (f.start + n - 1)
      (if hasStart then "invalid continuation byte" else "invalid start byte")
  | none => undecodable "utf-8" content f.start (content.length - 1) "unexpected end of data"

/-- The text that octets spell. -/
def decode (content : Octets) : Except Raised CodePoints :=
  match Utf8.decode content with
  | .ok s => .ok (s.map CodePoint.ofChar)
  | .error f => .error (malformed content f)

/-! ## Documents -/

/-- How the octets of a document spell it, and how many octets at their start say no more than that. -/
def ofStart : Octets → Encoding × Nat
  | 0 :: 0 :: 0xfe :: 0xff :: _ => (utf32 true, 4)
  | 0xff :: 0xfe :: 0 :: 0 :: _ => (utf32 false, 4)
  | 0xfe :: 0xff :: _ => (utf16 true, 2)
  | 0xff :: 0xfe :: _ => (utf16 false, 2)
  | 0xef :: 0xbb :: 0xbf :: _ => (utf8, 3)
  | a :: b :: c :: d :: _ =>
    if a = 0 then (if b = 0 then utf32 true else utf16 true, 0)
    else if b = 0 then (if c = 0 ∧ d = 0 then utf32 false else utf16 false, 0)
    else (utf8, 0)
  | [a, b] => (if a = 0 then utf16 true else if b = 0 then utf16 false else utf8, 0)
  | _ => (utf8, 0)

/-- The number that octets spell. -/
def number (bigEndian : Bool) (digits : Octets) : Nat :=
  (if bigEndian then digits else digits.reverse).foldl (fun n b => n * 256 + b.toNat) 0

/-- The name of the order of octets. -/
def order (bigEndian : Bool) : String := if bigEndian then "be" else "le"

def truncated : String := "truncated data"

/-- A surrogate in the form in which other code points have three octets. -/
def surrogate? : Octets → Option CodePoint
  | 0xed :: b :: c :: _ =>
    if 0xa0 ≤ b ∧ Utf8.isContinuation b ∧ Utf8.isContinuation c then
      some (.ofNat (0xd000 + Utf8.low6 b * 64 + Utf8.low6 c))
    else none
  | _ => none

/-- Decode octets of `whole` that start at `position`, skipping `skip` of them that are read already. -/
def decode8 (whole : Octets) (position : Nat) : Nat → Octets → Except Raised CodePoints
  | _, [] => .ok []
  | skip + 1, _ :: rest => decode8 whole (position + 1) skip rest
  | 0, a :: rest =>
    match Utf8.decodeChar a rest, surrogate? (a :: rest) with
    | .ok (c, n), _ => (decode8 whole (position + 1) (n - 1) rest).map (.ofChar c :: ·)
    | .error _, some p => (decode8 whole (position + 1) 2 rest).map (p :: ·)
    | .error length, none => .error (malformed whole ⟨position, length⟩)

/-- Decode octets of `whole` that start at `position`, two to a unit. -/
def decode16 (bigEndian : Bool) (whole : Octets) (position : Nat) : Octets → Except Raised CodePoints
  | a :: b :: c :: d :: rest =>
    let high := number bigEndian [a, b]
    let low := number bigEndian [c, d]
    if 0xd800 ≤ high ∧ high < 0xdc00 ∧ 0xdc00 ≤ low ∧ low < 0xe000 then
      (decode16 bigEndian whole (position + 4) rest).map
        (.ofNat (0x10000 + (high - 0xd800) * 0x400 + (low - 0xdc00)) :: ·)
    else (decode16 bigEndian whole (position + 2) (c :: d :: rest)).map (.ofNat high :: ·)
  | a :: b :: rest => (decode16 bigEndian whole (position + 2) rest).map (.ofNat (number bigEndian [a, b]) :: ·)
  | [_] => .error (undecodable ("utf-16-" ++ order bigEndian) whole position position truncated)
  | [] => .ok []

/-- Decode octets of `whole` that start at `position`, four to a code point. -/
def decode32 (bigEndian : Bool) (whole : Octets) (position : Nat) : Octets → Except Raised CodePoints
  | a :: b :: c :: d :: rest =>
    let n := number bigEndian [a, b, c, d]
    if n < 0x110000 then (decode32 bigEndian whole (position + 4) rest).map (.ofNat n :: ·)
    else
      .error (undecodable ("utf-32-" ++ order bigEndian) whole position (position + 3)
        "code point not in range(0x110000)")
  | [] => .ok []
  | _ => .error (undecodable ("utf-32-" ++ order bigEndian) whole position (whole.length - 1) truncated)

/-- The text of a document. -/
def decodeDocument (content : Octets) : Except Raised CodePoints :=
  match ofStart content with
  | (utf8, start) => decode8 (content.drop start) 0 0 (content.drop start)
  | (utf16 bigEndian, start) => decode16 bigEndian content start (content.drop start)
  | (utf32 bigEndian, start) => decode32 bigEndian content start (content.drop start)

end Encoding

end InterpreterHost
