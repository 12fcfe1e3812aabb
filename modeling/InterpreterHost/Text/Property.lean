/-!
# Properties of characters

Ranges of code points, and white space.

## Main definitions

* `Text.Ranges` — code points as ranges of them
* `Text.Ranges.holds` — whether one of the ranges holds a code point
* `Text.isBlank` — the property `White_Space` of the Unicode character database
* `Text.trim` — a text without white space at either end

## Design notes

A table is a sorted array of closed ranges, so a search by halves finds the only range that can hold a code point.
-/

namespace InterpreterHost.Text

/-- Closed ranges of code points, in ascending order. -/
abbrev Ranges := Array (Nat × Nat)

namespace Ranges

/-- Search the ranges at the positions from `low` to below `high` for one that holds `c`. -/
def searchAux (ranges : Ranges) (c : Nat) : Nat → Nat → Nat → Bool
  | 0, _, _ => false
  | fuel + 1, low, high =>
    if high ≤ low then false
    else
      let middle := (low + high) / 2
      let (first, last) := ranges.getD middle (0, 0)
      if c < first then searchAux ranges c fuel low middle
      else if last < c then searchAux ranges c fuel (middle + 1) high
      else true

/-- Whether one of the ranges holds the code point. -/
def holds (ranges : Ranges) (c : Nat) : Bool :=
  searchAux ranges c (ranges.size.log2 + 2) 0 ranges.size

end Ranges

/-- The code points of `White_Space`. -/
def isBlank (c : Char) : Bool :=
  let n := c.toNat
  (9 ≤ n && n ≤ 13) || n == 0x20 || n == 0x85 || n == 0xa0 || n == 0x1680 || (0x2000 ≤ n && n ≤ 0x200a) ||
    n == 0x2028 || n == 0x2029 || n == 0x202f || n == 0x205f || n == 0x3000

/-! ## Trimming -/

/-- Without white space at the end. -/
def trimEnd (s : List Char) : List Char := (s.reverse.dropWhile isBlank).reverse

/-- Without white space at the start. -/
def trimStart (s : List Char) : List Char := s.dropWhile isBlank

/-- Without white space at either end. -/
def trim (s : List Char) : List Char := trimEnd (trimStart s)

end InterpreterHost.Text
