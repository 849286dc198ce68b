import Mathlib.Tactic.NormNum
import Criteria.Decimal.Double

/-!
# Whole numbers as doubles

A whole number of more than 53 bits is rounded when it is made a double:
to a multiple of the weight of the lowest bit that the significand still
holds. `toRatio_ofInt` says what number the double is, so a whole number
is kept exactly when that weight divides it (`roundDiv_mul_eq_iff`).
-/

namespace Criteria.Double

/-! ## Rounding to a multiple -/

/-- Only a multiple is left where it is. -/
theorem roundDiv_mul_eq_iff {n d : Nat} (hd : 0 < d) : roundDiv n d * d = n ↔ d ∣ n := by
  refine ⟨fun h => ⟨roundDiv n d, by rw [Nat.mul_comm]; exact h.symm⟩, ?_⟩
  rintro ⟨k, rfl⟩
  have hround : roundDiv (d * k) d = k := by
    simp only [roundDiv, Nat.mul_mod_right, Nat.mul_div_cancel_left k hd, Nat.mul_zero]
    have hrest : (0 == d) = false := by simpa using hd.ne
    simp [hrest]
  rw [hround, Nat.mul_comm]

/-- The floor, or the whole number above it. -/
theorem roundDiv_bounds (n d : Nat) : n / d ≤ roundDiv n d ∧ roundDiv n d ≤ n / d + 1 := by
  simp only [roundDiv]
  split <;> omega

theorem le_roundDiv {n d m : Nat} (hd : 0 < d) (h : m * d ≤ n) : m ≤ roundDiv n d :=
  le_trans ((Nat.le_div_iff_mul_le hd).mpr h) (roundDiv_bounds n d).1

theorem roundDiv_le {n d m : Nat} (hd : 0 < d) (h : n < m * d) : roundDiv n d ≤ m :=
  le_trans (roundDiv_bounds n d).2 ((Nat.div_lt_iff_lt_mul hd).mpr h)

/-! ## The bits -/

/-- A magnitude below the sign is read off the bits as it is. -/
theorem magnitude_ofMagnitude {m : Nat} (h : m < signWeight) :
    (ofMagnitude false m).magnitude = m := by
  have hsize : m < 2 ^ 64 := lt_trans h (by decide)
  simp only [magnitude, ofMagnitude, Bool.false_eq_true, if_false, Nat.add_zero,
    UInt64.toNat_ofNat_of_lt' hsize, Nat.mod_eq_of_lt h]

/-- The double with exponent field `f` and the lower bits `s`. -/
theorem toRatio_fields {f s : Nat} (hf : 1075 ≤ f) (hfinite : f < infiniteField)
    (hs : s < exponentWeight) :
    (ofMagnitude false (f * exponentWeight + s)).isFinite = true ∧
      (ofMagnitude false (f * exponentWeight + s)).toRatio =
        ((exponentWeight + s) * 2 ^ (f - 1075), 1) := by
  have hbelow : f * exponentWeight + s < signWeight := by
    simp only [infiniteField, exponentWeight, signWeight, Nat.pow_eq] at *
    omega
  have hmagnitude := magnitude_ofMagnitude hbelow
  generalize ofMagnitude false (f * exponentWeight + s) = d at hmagnitude ⊢
  have hpos : 0 < exponentWeight := Nat.zero_lt_of_lt hs
  have hexponent : d.exponentField = f := by
    rw [exponentField, hmagnitude, Nat.add_comm, Nat.add_mul_div_right _ _ hpos,
      Nat.div_eq_of_lt hs, Nat.zero_add]
  have hsignificand : d.significand = exponentWeight + s := by
    have hnormal : f ≠ 0 := by omega
    rw [significand, hexponent, if_neg hnormal, hmagnitude, Nat.add_comm (f * exponentWeight),
      Nat.add_mul_mod_self_right, Nat.mod_eq_of_lt hs]
  have hscale : d.scale = ((f - 1075 : Nat) : Int) := by
    simp only [scale, hexponent]
    omega
  have hwhole : ¬ (((f - 1075 : Nat) : Int) < 0) := by omega
  refine ⟨by simpa [isFinite, hexponent] using hfinite, ?_⟩
  simp only [toRatio, hscale, hsignificand, hwhole, if_false, Int.toNat_natCast, Nat.pow_eq]

/-- A significand `r` under the exponent field `f`, which the highest bit
of `r` raises by one, and by two when `r` has been rounded up to a power
of two. -/
theorem toRatio_carried {f r : Nat} (hf : 1074 ≤ f) (hfinite : f + 2 < infiniteField)
    (hlow : exponentWeight ≤ r) (hhigh : r ≤ 2 * exponentWeight) :
    (ofMagnitude false (f * exponentWeight + r)).isFinite = true ∧
      (ofMagnitude false (f * exponentWeight + r)).toRatio = (r * 2 ^ (f - 1074), 1) := by
  rcases Nat.lt_or_eq_of_le hhigh with hr | rfl
  · obtain ⟨s, rfl⟩ := Nat.exists_eq_add_of_le hlow
    have hfields := toRatio_fields (f := f + 1) (s := s) (by omega) (by omega) (by omega)
    have hbits : (f + 1) * exponentWeight + s = f * exponentWeight + (exponentWeight + s) := by
      rw [Nat.succ_mul, Nat.add_assoc]
    rwa [hbits, Nat.add_sub_add_right f 1 1074] at hfields
  -- Rounded up to a power of two: the lower bits are nothing again.
  · have hpos : 0 < exponentWeight := by decide
    have hfields := toRatio_fields (f := f + 2) (s := 0) (by omega) hfinite hpos
    have hbits : (f + 2) * exponentWeight + 0 = f * exponentWeight + 2 * exponentWeight := by
      rw [Nat.add_zero, Nat.add_mul]
    have hexponent : f + 2 - 1075 = f - 1074 + 1 := by omega
    have hvalue : (exponentWeight + 0) * 2 ^ (f + 2 - 1075) =
        2 * exponentWeight * 2 ^ (f - 1074) := by
      rw [hexponent, Nat.pow_succ, Nat.add_zero, Nat.mul_comm 2, Nat.mul_assoc, Nat.mul_comm 2]
    rwa [hbits, hvalue] at hfields

/-! ## Whole numbers -/

theorem inUnits_one (n e : Nat) : inUnits n 1 (e : Int) = (n, 2 ^ e) := by
  simp only [inUnits, Int.not_lt.mpr (Int.natCast_nonneg e), if_false, Int.toNat_natCast,
    Nat.one_mul, Nat.pow_eq]

theorem binaryExponent_one {n e : Nat} (hlow : 2 ^ e ≤ n) (hhigh : n < 2 ^ (e + 1)) :
    binaryExponent n 1 = e := by
  have hlog : Nat.log2 n = e :=
    (Nat.log2_eq_iff (by have := Nat.two_pow_pos e; omega)).mpr ⟨hlow, hhigh⟩
  have hone : Nat.log2 1 = 0 := by decide
  have hguess : ((Nat.log2 n : Nat) : Int) - (Nat.log2 1 : Nat) = e := by rw [hlog, hone]; omega
  simp only [binaryExponent, hguess, inUnits_one, hlow, if_true]

/-- A whole number of `53 + e` bits becomes the multiple of `2 ^ e`
nearest to it. -/
theorem toRatio_ofInt {n e : Nat} (hlow : 2 ^ (52 + e) ≤ n) (hhigh : n < 2 ^ (53 + e))
    (he : e ≤ 970) :
    (ofInt n).isFinite = true ∧ (ofInt n).toRatio = (roundDiv n (2 ^ e) * 2 ^ e, 1) := by
  have hpos : 0 < 2 ^ e := Nat.two_pow_pos e
  have hn : n ≠ 0 := by have := Nat.two_pow_pos (52 + e); omega
  have hexponent : binaryExponent n 1 = (52 + e : Nat) :=
    binaryExponent_one hlow (by rwa [show 52 + e + 1 = 53 + e by omega])
  have hscale : max (((52 + e : Nat) : Int) - 52) (-1074) = (e : Int) := by omega
  have hfield : ((e : Int) + 1074).toNat = e + 1074 := by omega
  have hweight : exponentWeight = 2 ^ 52 := rfl
  have hleast : exponentWeight ≤ roundDiv n (2 ^ e) :=
    le_roundDiv hpos (by rw [hweight, ← Nat.pow_add]; exact hlow)
  have hgreatest : roundDiv n (2 ^ e) ≤ 2 * exponentWeight :=
    roundDiv_le hpos (by rw [hweight, ← Nat.pow_succ', ← Nat.pow_add]; exact hhigh)
  have hfinite : ¬ infiniteField * exponentWeight ≤
      (e + 1074) * exponentWeight + roundDiv n (2 ^ e) := by
    simp only [infiniteField, exponentWeight, Nat.pow_eq] at *
    omega
  have hdouble : ofInt n = ofMagnitude false ((e + 1074) * exponentWeight + roundDiv n (2 ^ e)) := by
    simp only [ofInt, ofRatio, Int.natAbs_natCast, hn, decide_false, Nat.one_ne_zero, Bool.or_false,
      Bool.false_eq_true, if_false, hexponent, hscale, inUnits_one, hfield, hfinite,
      Int.not_lt.mpr (Int.natCast_nonneg n)]
  rw [hdouble]
  have hcarried := toRatio_carried (f := e + 1074) (r := roundDiv n (2 ^ e)) (by omega)
    (by have : infiniteField = 2047 := rfl; omega) hleast hgreatest
  rwa [Nat.add_sub_cancel] at hcarried

end Criteria.Double
