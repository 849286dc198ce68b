import Criteria.Decimal.Double

/-!
# Shortest decimals

The decimal with the fewest digits among those that round to a given
double, and of these the nearest to it, a tie to the even last digit.
The numbers that round to `m · 2 ^ q` form an interval, whose ends belong
to it when `m` is even. Grids of powers of ten are tried from the
coarsest down; on each the two neighbours of the double are its only
candidates, so the first grid with a hit has the fewest digits.
-/

namespace Criteria

/-- The number `digits · 10 ^ exponent`. -/
structure Decimal where
  digits : Nat
  exponent : Int
deriving DecidableEq, Repr

namespace Decimal

/-- An interval of numbers around `middle`, all in one unit. -/
structure Interval where
  low : Nat
  middle : Nat
  high : Nat
  closed : Bool

namespace Interval

/-- The numbers that round to `d`, in units of `2 ^ (d.scale - 2)`. The
distance to the next smaller double is half as great below a power of
two. -/
def around (d : Double) : Interval :=
  let m := d.significand
  { low := if m = Double.exponentWeight && 1 < d.exponentField then 4 * m - 1 else 4 * m - 2
    middle := 4 * m
    high := 4 * m + 2
    closed := m % 2 == 0 }

def contains (i : Interval) (n : Nat) : Bool :=
  if i.closed then i.low ≤ n && n ≤ i.high else i.low < n && n < i.high

def scaled (i : Interval) (k : Nat) : Interval :=
  { i with low := i.low * k, middle := i.middle * k, high := i.high * k }

end Interval

/-- The multiple of `step` within the interval that is nearest to its
middle, counted in steps. -/
def nearest? (i : Interval) (step : Nat) : Option Nat :=
  let below := i.middle / step
  let rest := i.middle % step
  match i.contains (below * step), i.contains ((below + 1) * step) with
  | false, false => none
  | true, false => some below
  | false, true => some (below + 1)
  | true, true =>
    some (if 2 * rest < step || (2 * rest == step && below % 2 == 0) then below else below + 1)

/-- The interval and the grid step `10 ^ k` in one unit, when the unit of
the interval is `2 ^ q`. -/
def onGrid (i : Interval) (q k : Int) : Interval × Nat :=
  let (binary, unit) := if q < 0 then (1, Nat.pow 2 (-q).toNat) else (Nat.pow 2 q.toNat, 1)
  let (tens, parts) := if k < 0 then (1, Nat.pow 10 (-k).toNat) else (Nat.pow 10 k.toNat, 1)
  (i.scaled (binary * parts), tens * unit)

/-- The first of the grids `10 ^ k`, `10 ^ (k - 1)`, … with a hit. -/
def search (i : Interval) (q : Int) : Nat → Int → Decimal
  | 0, k => ⟨(onGrid i q k).1.middle / (onGrid i q k).2, k⟩
  | n + 1, k =>
    match nearest? (onGrid i q k).1 (onGrid i q k).2 with
    | some digits => ⟨digits, k⟩
    | none => search i q n (k - 1)

/-- A power of ten above `2 ^ n`. -/
def tensAbove (n : Int) : Int := Int.fdiv (n * 30103) 100000 + 1

/-- The shortest decimal of a finite double that is not zero. Twenty
grids reach past the seventeenth digit, where a hit is certain. -/
def shortest (d : Double) : Decimal :=
  search (.around d) (d.scale - 2) 20
    (tensAbove (Nat.log2 d.significand + 1 + d.scale))

end Decimal

end Criteria
