import Criteria.Decimal.Shortest

/-!
# Decimals written out

A decimal is written positionally when its leading digit stands not too
far from the point, with at least one digit on both sides of the point;
otherwise as one digit, a fraction and an exponent. `Layout` holds what a
format decides.
-/

namespace Criteria.Decimal

/-- Where positional notation ends on either side. -/
structure Layout where
  leastPositional : Int
  greatestPositional : Int

def zeros (n : Nat) : List Char := List.replicate n '0'

/-- The digits with the point after the one worth `10 ^ 0`; `place` is
the power of ten of the first digit. -/
def positional (ds : List Char) (place : Int) : List Char :=
  if place < 0 then ['0', '.'] ++ zeros (-place - 1).toNat ++ ds
  else
    let whole := place.toNat + 1
    if ds.length ≤ whole then ds ++ zeros (whole - ds.length) ++ ['.', '0']
    else ds.take whole ++ '.' :: ds.drop whole

/-- One digit, the others as its fraction, and the exponent with a
sign. -/
def scientific (ds : List Char) (place : Int) : List Char :=
  let fraction := ds.drop 1
  ds.take 1 ++ (if fraction.isEmpty then [] else '.' :: fraction)
    ++ ['e', if place < 0 then '-' else '+'] ++ Nat.toDigits 10 place.natAbs

def Layout.write (l : Layout) (d : Decimal) : List Char :=
  let ds := Nat.toDigits 10 d.digits
  let place := d.exponent + ds.length - 1
  if l.leastPositional ≤ place && place ≤ l.greatestPositional then positional ds place
  else scientific ds place

/-- The text of a finite double. -/
def Layout.text (l : Layout) (d : Double) : String :=
  let sign := if d.isNegative then ['-'] else []
  String.ofList (sign ++ if d.isZero then ['0', '.', '0'] else l.write (shortest d))

end Criteria.Decimal
