import InterpreterHost.Binary64

/-!
# The shortest decimal that reads back

A finite double has many decimals that are read as it.  Its short text uses one with the fewest digits,
and of those the one nearest to the double.

## Main definitions

* `Decimal` — `digits · 10 ^ exponent`
* `Tie` — which of two numbers that are equally near is taken
* `Binary64.shortest` — the decimal of fewest digits that is read as the given double

## Design notes

For one digit, two digits and so on up to seventeen, the two points of that decimal grid around the exact
value are *read back* and compared with the double.  So what is found reads back because it was checked, and
nothing shorter does because it was tried before.  Seventeen digits always suffice; the exact value stands
behind them so that the function needs no proof of that.
-/

namespace InterpreterHost

/-- The number `digits · 10 ^ exponent`. -/
structure Decimal where
  digits : Nat
  exponent : Int
deriving DecidableEq, Repr, Inhabited

/-- Which of two numbers that are equally near is taken. -/
inductive Tie where
  /-- The even one. -/
  | even
  /-- The greater one. -/
  | up
deriving DecidableEq, Repr

/-- The whole number nearest to `num / den`. -/
def Tie.round : Tie → Nat → Nat → Nat
  | even, num, den => Binary64.roundHalfEven num den
  | up, num, den => (2 * num + den) / (2 * den)

namespace Decimal

/-- Drop zeros at the end of the digits, at most `fuel` of them. -/
def trimZerosAux : Nat → Decimal → Decimal
  | 0, d => d
  | fuel + 1, d =>
    if d.digits ≠ 0 ∧ d.digits % 10 = 0 then trimZerosAux fuel ⟨d.digits / 10, d.exponent + 1⟩ else d

/-- The same number without zeros at the end of its digits. -/
def trimZeros (d : Decimal) : Decimal := trimZerosAux d.digits.log2 d

end Decimal

namespace Binary64

/-- The power of ten of the leading digit of `num / den`. -/
def leadingPower (num den : Nat) : Int :=
  if den ≤ num then (decimalLength (num / den) : Int) - 1
  else -(decimalLength ((den - 1) / num) : Int)

/-- Of the two neighbours of `num / den` among the multiples of `10 ^ e`, the nearest that is read as
`b`, if one is. -/
def readableNeighbour (tie : Tie) (b : Binary64) (num den : Nat) (e : Int) : Option Decimal :=
  let (n, d) := scaleDown 10 num den e
  let low := n / d
  let nearest := tie.round n d
  let other := if nearest = low then low + 1 else low
  if ofDecimal b.isNegative nearest e = b then some ⟨nearest, e⟩
  else if ofDecimal b.isNegative other e = b then some ⟨other, e⟩
  else none

/-- The decimal of fewest digits that is read as the finite double `b`; of several, the nearest, and of two that are
equally near the one that `tie` says. -/
def shortest (tie : Tie) (b : Binary64) : Decimal :=
  let (num, den) := b.ratio
  if num = 0 then ⟨0, 0⟩
  else
    let lead := leadingPower num den
    let found := (List.range 17).findSome? fun i => readableNeighbour tie b num den (lead - (i : Nat))
    (found.getD ⟨num * Nat.pow 5 den.log2, -(den.log2 : Int)⟩).trimZeros

end Binary64

end InterpreterHost
