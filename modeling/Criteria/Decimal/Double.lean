/-!
# Doubles

IEEE binary64 numbers as their 64 bits, with exact arithmetic on the
naturals behind them. A finite double is a significand times a power of
two; `ofRatio` rounds a quotient to the nearest double, ties to even.
Keeping the bits, rather than a machine float, keeps the payload of a
NaN and the sign of a zero, and lets a proof see every operation.
-/

namespace Criteria

structure Double where
  bits : UInt64
deriving DecidableEq, Repr

namespace Double

/-- The weight of the sign bit. -/
def signWeight : Nat := Nat.pow 2 63

/-- The weight of the lowest exponent bit. -/
def exponentWeight : Nat := Nat.pow 2 52

/-- The exponent field of what is not finite. -/
def infiniteField : Nat := 2047

def isNegative (d : Double) : Bool := signWeight ≤ d.bits.toNat

/-- The bits below the sign. -/
def magnitude (d : Double) : Nat := d.bits.toNat % signWeight

def exponentField (d : Double) : Nat := d.magnitude / exponentWeight

def isFinite (d : Double) : Bool := d.exponentField < infiniteField

def isNaN (d : Double) : Bool := infiniteField * exponentWeight < d.magnitude

def isZero (d : Double) : Bool := d.magnitude == 0

/-- The integer `m` of a finite double `± m · 2 ^ q`. -/
def significand (d : Double) : Nat :=
  if d.exponentField = 0 then d.magnitude
  else exponentWeight + d.magnitude % exponentWeight

/-- The exponent `q` of a finite double `± m · 2 ^ q`. -/
def scale (d : Double) : Int := (max d.exponentField 1 : Nat) - 1075

/-- Comparison by value: a NaN differs from itself, the two zeros are
equal. -/
def same (a b : Double) : Bool :=
  !a.isNaN && !b.isNaN && (a.bits == b.bits || (a.isZero && b.isZero))

/-- A magnitude with a sign. -/
def ofMagnitude (negative : Bool) (n : Nat) : Double :=
  ⟨UInt64.ofNat (n + if negative then signWeight else 0)⟩

def infinity (negative : Bool) : Double :=
  ofMagnitude negative (infiniteField * exponentWeight)

/-- The quotient `num / den` rounded to a natural number, a half to the
even one. -/
def roundDiv (num den : Nat) : Nat :=
  let whole := num / den
  let rest := 2 * (num % den)
  if den < rest || (rest == den && whole % 2 == 1) then whole + 1 else whole

/-- The quotient `num / den` in units of `2 ^ q`, again as a quotient of
naturals. -/
def inUnits (num den : Nat) (q : Int) : Nat × Nat :=
  if q < 0 then (num * Nat.pow 2 (-q).toNat, den) else (num, den * Nat.pow 2 q.toNat)

/-- The binary exponent of `num / den`: the greatest `e` with
`2 ^ e ≤ num / den`. -/
def binaryExponent (num den : Nat) : Int :=
  let guess : Int := (Nat.log2 num : Int) - Nat.log2 den
  let (n, d) := inUnits num den guess
  if d ≤ n then guess else guess - 1

/-- The double nearest to `num / den` under the given sign, a tie to the
even significand, beyond the greatest finite one infinity. The
significand carries into the exponent by the layout of the bits. -/
def ofRatio (negative : Bool) (num den : Nat) : Double :=
  if num = 0 || den = 0 then ofMagnitude negative 0
  else
    let q := max (binaryExponent num den - 52) (-1074)
    let (n, d) := inUnits num den q
    let m := (q + 1074).toNat * exponentWeight + roundDiv n d
    if infiniteField * exponentWeight ≤ m then infinity negative else ofMagnitude negative m

def ofNat (n : Nat) : Double := ofRatio false n 1

def ofInt (i : Int) : Double := ofRatio (i < 0) i.natAbs 1

/-- The absolute value of a finite double as a quotient of naturals. -/
def toRatio (d : Double) : Nat × Nat :=
  if d.scale < 0 then (d.significand, Nat.pow 2 (-d.scale).toNat)
  else (d.significand * Nat.pow 2 d.scale.toNat, 1)

def negate (d : Double) : Double :=
  if d.isNegative then ofMagnitude false d.magnitude else ofMagnitude true d.magnitude

/-- The rounded product of two finite doubles that are not negative. -/
def times (a b : Double) : Double :=
  ofRatio false (a.toRatio.1 * b.toRatio.1) (a.toRatio.2 * b.toRatio.2)

/-- The rounded quotient of two finite doubles that are not negative. -/
def dividedBy (a b : Double) : Double :=
  ofRatio false (a.toRatio.1 * b.toRatio.2) (a.toRatio.2 * b.toRatio.1)

/-- The double nearest to `10 ^ k`. -/
def powerOfTen (k : Nat) : Double := ofNat (Nat.pow 10 k)

/-- The greatest power of ten that is a finite double. -/
def greatestTen : Nat := 308

/-- The quotient `d / 10 ^ k`, rounded after each division by a finite
power. -/
def dividedByTens (d : Double) (k : Nat) : Double :=
  if _h : greatestTen < k then
    if d.isZero then d
    else dividedByTens (d.dividedBy (powerOfTen greatestTen)) (k - greatestTen)
  else d.dividedBy (powerOfTen k)
termination_by k
decreasing_by simp only [greatestTen] at *; omega

/-- The double that a decimal literal denotes: its significand is
rounded first and the power of ten applied to the result. A literal too
great for a double denotes none. -/
def ofDecimal? (significand : Nat) (exponent : Int) : Option Double :=
  let d := ofNat significand
  if exponent < 0 then some (d.dividedByTens (-exponent).toNat)
  else if d.isZero then some d
  else if greatestTen < exponent then none
  else
    let product := d.times (powerOfTen exponent.toNat)
    if product.isFinite then some product else none

end Double

end Criteria
