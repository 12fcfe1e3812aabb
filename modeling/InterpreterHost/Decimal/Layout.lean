import InterpreterHost.Decimal.Shortest

/-!
# How the digits of a number are laid out

The digits of a double are a matter of arithmetic; whether they are written with a point or with an exponent
is a decision of each output format.  `Layout` is the record of those decisions and `Layout.render` follows it.

## Main definitions

* `Layout` — the decisions of one output format
* `Layout.render` — the text of a double
-/

namespace InterpreterHost.Decimal

/-- The decisions of an output format about doubles. -/
structure Layout where
  /-- Positional notation is used when the point stands more than this many places from the digits' start. -/
  lowest : Option Int
  /-- Positional notation is used when the point stands at most this many places from the digits' start. -/
  highest : Option Int
  /-- Whether a whole number keeps the fraction `.0`. -/
  keepFraction : Bool
  /-- The least number of digits of an exponent. -/
  exponentDigits : Nat
  infinity : String
  nan : String
  /-- Which of two shortest decimals that are equally near is written. -/
  tie : Tie := .even

namespace Layout

def zeros (n : Nat) : String := String.ofList (List.replicate n '0')

/-- Digits with a point before the place `point`, which may lie outside of them. -/
def positional (l : Layout) (digits : String) (point : Int) : String :=
  if point ≤ 0 then "0." ++ zeros (-point).toNat ++ digits
  else if digits.length ≤ point.toNat then
    digits ++ zeros (point.toNat - digits.length) ++ if l.keepFraction then ".0" else ""
  else
    String.ofList (digits.toList.take point.toNat) ++ "." ++ String.ofList (digits.toList.drop point.toNat)

/-- Digits with a point after the first of them and a signed exponent. -/
def scientific (l : Layout) (digits : String) (point : Int) : String :=
  let mantissa :=
    if digits.length ≤ 1 then digits
    else String.ofList (digits.toList.take 1) ++ "." ++ String.ofList (digits.toList.drop 1)
  let power := toString (point - 1).natAbs
  mantissa ++ (if point - 1 < 0 then "e-" else "e+") ++ zeros (l.exponentDigits - power.length) ++ power

/-- Whether a number whose point stands at the place `point` is written positionally. -/
def isPositional (l : Layout) (point : Int) : Bool :=
  (l.lowest.all (· < point)) && (l.highest.all (point ≤ ·))

/-- The text of the absolute value of a finite double. -/
def renderMagnitude (l : Layout) (b : Binary64) : String :=
  let d := b.shortest l.tie
  if d.digits = 0 then if l.keepFraction then "0.0" else "0"
  else
    let digits := toString d.digits
    let point := (digits.length : Int) + d.exponent
    if l.isPositional point then l.positional digits point else l.scientific digits point

/-- The text of a double. -/
def render (l : Layout) (b : Binary64) : String :=
  if b.isNaN then l.nan
  else (if b.isNegative then "-" else "") ++ if b.isInfinite then l.infinity else l.renderMagnitude b

end Layout

end InterpreterHost.Decimal
