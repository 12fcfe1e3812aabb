/-!
# Double-precision numbers

A double is kept as its 64 bits, so that every fact about it is a fact about natural numbers.  The
module decodes a finite double into `significand · 2 ^ exponent` and rounds an exact ratio to the
nearest double.

## Main definitions

* `Binary64` — a double, as its bits
* `Binary64.ieeeEq` — the comparison of the standard: NaN differs from itself, both zeros agree
* `Binary64.ofRatio` — the double nearest to a ratio of natural numbers, ties to the even one
* `Binary64.ofDecimal` — the double nearest to `digits · 10 ^ exponent`
* `Binary64.add` — the sum, rounded once

## Design notes

The magnitude of a finite double *is* the natural number spelled by its low 63 bits:
`(exponent + 1074) · 2 ^ 52 + significand`, for normal and subnormal numbers alike.  Rounding therefore
computes that number directly, and a carry out of the significand moves on to the next binade by itself.
-/

namespace InterpreterHost

/-- A double-precision number, as its 64 bits. -/
structure Binary64 where
  bits : UInt64
deriving DecidableEq, Inhabited, Repr

namespace Binary64

/-! ## The fields of the word -/

/-- The sign bit, which is `2 ^ 63`. -/
def signBit : Nat := 0x8000000000000000

/-- How many magnitudes have one exponent, which is `2 ^ 52`. -/
def binadeSize : Nat := 0x10000000000000

/-- The 63 bits below the sign. -/
def magnitude (b : Binary64) : Nat := b.bits.toNat % signBit

/-- Whether the sign bit is set. -/
def isNegative (b : Binary64) : Bool := signBit ≤ b.bits.toNat

/-- The magnitude of both infinities; every greater one belongs to a NaN. -/
def infiniteMagnitude : Nat := 2047 * binadeSize

/-- The word with the given sign and magnitude. -/
def pack (negative : Bool) (magnitude : Nat) : Binary64 :=
  ⟨UInt64.ofNat (magnitude + if negative then signBit else 0)⟩

def isNaN (b : Binary64) : Bool := infiniteMagnitude < b.magnitude
def isInfinite (b : Binary64) : Bool := b.magnitude == infiniteMagnitude
def isFinite (b : Binary64) : Bool := b.magnitude < infiniteMagnitude
def isZero (b : Binary64) : Bool := b.magnitude == 0

/-- The quiet NaN with an empty payload. -/
def nan : Binary64 := ⟨0x7ff8000000000000⟩

/-- Equality of the floating-point standard. -/
def ieeeEq (a b : Binary64) : Bool :=
  !a.isNaN && !b.isNaN && (a.bits == b.bits || (a.isZero && b.isZero))

theorem ieeeEq_self (a : Binary64) : a.ieeeEq a = !a.isNaN := by
  simp [ieeeEq]

theorem ieeeEq_comm (a b : Binary64) : a.ieeeEq b = b.ieeeEq a := by
  simp only [ieeeEq]
  rw [Bool.and_comm (!a.isNaN), Bool.and_comm a.isZero, Bool.beq_comm (a := a.bits)]

/-! ## The value of a finite double -/

/-- The integer part of the product `significand · 2 ^ exponent` that a finite double denotes. -/
def significand (b : Binary64) : Nat :=
  let field := b.magnitude / binadeSize
  let fraction := b.magnitude % binadeSize
  if field = 0 then fraction else binadeSize + fraction

/-- The power of two in the product `significand · 2 ^ exponent`. -/
def exponent (b : Binary64) : Int :=
  let field := b.magnitude / binadeSize
  if field = 0 then -1074 else Int.ofNat field - 1075

/-- The absolute value of a finite double, as numerator and denominator. -/
def ratio (b : Binary64) : Nat × Nat :=
  if 0 ≤ b.exponent then (b.significand * Nat.pow 2 b.exponent.toNat, 1)
  else (b.significand, Nat.pow 2 (-b.exponent).toNat)

/-! ## Rounding -/

/-- The quotient rounded to the nearest integer, a half to the even neighbour. -/
def roundHalfEven (num den : Nat) : Nat :=
  let q := num / den
  let r := num % den
  if 2 * r < den then q else if den < 2 * r then q + 1 else q + q % 2

/-- `num / (den · base ^ e)` as numerator and denominator, for an exponent of either sign. -/
def scaleDown (base num den : Nat) (e : Int) : Nat × Nat :=
  if 0 ≤ e then (num, den * base.pow e.toNat) else (num * base.pow (-e).toNat, den)

/-- The exponent at which `num / den` has a significand of 53 bits, or the least one there is. -/
def binadeOf (num den : Nat) : Int :=
  let e := max (-1074) ((num.log2 : Int) - den.log2 - 53)
  let (n, d) := scaleDown 2 num den e
  if 2 * binadeSize ≤ n / d then e + 1 else e

/-- The magnitude of the double nearest to `num / den`. -/
def magnitudeOfRatio (num den : Nat) : Nat :=
  if num = 0 ∨ den = 0 then 0
  else
    let e := binadeOf num den
    let (n, d) := scaleDown 2 num den e
    min infiniteMagnitude ((e + 1074).toNat * binadeSize + roundHalfEven n d)

/-- The double nearest to `± num / den`, ties to the one with an even significand. -/
def ofRatio (negative : Bool) (num den : Nat) : Binary64 :=
  pack negative (magnitudeOfRatio num den)

/-- The double nearest to an integer; the integer zero is the positive zero. -/
def ofInt (i : Int) : Binary64 := ofRatio (i < 0) i.natAbs 1

/-- How many digits a natural number has in base ten; none for zero. -/
def decimalLength (n : Nat) : Nat := if n = 0 then 0 else (Nat.toDigits 10 n).length

/-- The double nearest to `± digits · 10 ^ exponent`.  Beyond the range of doubles the answer is known
without computing the power. -/
def ofDecimal (negative : Bool) (digits : Nat) (exponent : Int) : Binary64 :=
  let point := (decimalLength digits : Int) + exponent
  if digits = 0 ∨ point < -330 then pack negative 0
  else if 330 < point then pack negative infiniteMagnitude
  else if 0 ≤ exponent then ofRatio negative (digits * Nat.pow 10 exponent.toNat) 1
  else ofRatio negative digits (Nat.pow 10 (-exponent).toNat)

/-- The quotient by a natural number, rounded once.  Infinities and NaN stay; by zero, zero gives NaN and all else
an infinity of its sign. -/
def divNat (b : Binary64) (n : Nat) : Binary64 :=
  if b.isFinite then
    if n = 0 then if b.isZero then nan else pack b.isNegative infiniteMagnitude
    else
      let (num, den) := b.ratio
      ofRatio b.isNegative num (den * n)
  else b

/-- The sum, rounded once.  Infinities of different signs give NaN; a sum of zero is negative only if both parts are. -/
def add (a b : Binary64) : Binary64 :=
  if a.isNaN || b.isNaN then nan
  else if a.isInfinite then if b.isInfinite && a.isNegative != b.isNegative then nan else a
  else if b.isInfinite then b
  else
    let (m, d) := a.ratio
    let (n, e) := b.ratio
    let signed (negative : Bool) (i : Int) : Int := if negative then -i else i
    let sum := signed a.isNegative (m * e) + signed b.isNegative (n * d)
    ofRatio (if sum = 0 then a.isNegative && b.isNegative else sum < 0) sum.natAbs (d * e)

end Binary64

end InterpreterHost
