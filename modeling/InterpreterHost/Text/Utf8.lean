/-!
# UTF-8

Characters as octets and back.  A refusal says where the first ill-formed sequence starts and how many octets
it has, counting only octets that could still have become a character.

## Main definitions

* `Utf8.encode` — the octets of a text
* `Utf8.decode` — the text that the octets spell, or the first fault in them
* `Utf8.Fault.message` — the fault in words
-/

namespace InterpreterHost

abbrev Octets := List UInt8

namespace Utf8

/-- The octets of a text. -/
def encode (s : List Char) : Octets := s.flatMap String.utf8EncodeChar

/-- The number of octets that a text takes. -/
def size : List Char → Nat
  | [] => 0
  | c :: s => c.utf8Size + size s

@[simp] theorem size_nil : size [] = 0 := rfl

@[simp] theorem size_cons (c : Char) (s : List Char) : size (c :: s) = c.utf8Size + size s := rfl

/-- The first ill-formed sequence: where it starts, and its length unless the octets end within it. -/
structure Fault where
  start : Nat
  length : Option Nat
deriving DecidableEq, Repr

/-- The fault in words. -/
def Fault.message (f : Fault) : String :=
  match f.length with
  | some n => s!"invalid utf-8 sequence of {n} bytes from index {f.start}"
  | none => s!"incomplete utf-8 byte sequence from index {f.start}"

/-- An octet that continues a character. -/
def isContinuation (b : UInt8) : Bool := 0x80 ≤ b && b < 0xc0

/-- Whether `b` may follow the leading octet `a` of three or four.  What is left out would spell a surrogate,
a code point past the last, or one with a shorter spelling. -/
def mayFollow (a b : UInt8) : Bool :=
  if a == 0xe0 then 0xa0 ≤ b && b < 0xc0
  else if a == 0xed then 0x80 ≤ b && b < 0xa0
  else if a == 0xf0 then 0x90 ≤ b && b < 0xc0
  else if a == 0xf4 then 0x80 ≤ b && b < 0x90
  else isContinuation b

def low6 (b : UInt8) : Nat := b.toNat % 64

/-- The first character of non-empty octets and how many octets it takes, or the length of the fault there. -/
def decodeChar (a : UInt8) (rest : Octets) : Except (Option Nat) (Char × Nat) :=
  if a < 0x80 then .ok (Char.ofNat a.toNat, 1)
  else if 0xc2 ≤ a && a < 0xe0 then
    match rest with
    | [] => .error none
    | b :: _ =>
      if isContinuation b then .ok (Char.ofNat (a.toNat % 32 * 64 + low6 b), 2) else .error (some 1)
  else if 0xe0 ≤ a && a < 0xf0 then
    match rest with
    | [] => .error none
    | b :: rest =>
      if !mayFollow a b then .error (some 1)
      else match rest with
        | [] => .error none
        | c :: _ =>
          if isContinuation c then .ok (Char.ofNat ((a.toNat % 16 * 64 + low6 b) * 64 + low6 c), 3)
          else .error (some 2)
  else if 0xf0 ≤ a && a < 0xf5 then
    match rest with
    | [] => .error none
    | b :: rest =>
      if !mayFollow a b then .error (some 1)
      else match rest with
        | [] => .error none
        | c :: rest =>
          if !isContinuation c then .error (some 2)
          else match rest with
            | [] => .error none
            | d :: _ =>
              if isContinuation d then
                .ok (Char.ofNat (((a.toNat % 8 * 64 + low6 b) * 64 + low6 c) * 64 + low6 d), 4)
              else .error (some 3)
  else .error (some 1)

/-- Decode octets that start at `position`, skipping `skip` of them that are read already. -/
def decodeFrom (position : Nat) : Nat → Octets → Except Fault (List Char)
  | _, [] => .ok []
  | skip + 1, _ :: rest => decodeFrom (position + 1) skip rest
  | 0, a :: rest =>
    match decodeChar a rest with
    | .error length => .error ⟨position, length⟩
    | .ok (c, n) => (decodeFrom (position + 1) (n - 1) rest).map (c :: ·)

/-- The text that the octets spell, or the first fault in them. -/
def decode (bytes : Octets) : Except Fault (List Char) := decodeFrom 0 0 bytes

end Utf8


end InterpreterHost
