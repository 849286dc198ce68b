import Criteria.Proofs.Decimal.Rounding
import Criteria.Proofs.Query.Json

/-!
# Values read from JSON

Every JSON value is read as a bind value by the first form that takes it
(`findSome?_readers`). What is written again is the same, with one
exception: a whole number that stands by itself and is too great for the
integers of a value. The floats come before the documents, so it is read
as a float and not as the document that would keep it, which is what
happens to the same number inside an array or an object.
-/

namespace Criteria

/-! ## JSON without fractions -/

namespace Json

/-- The whole number has 64 bits, with a sign or without. -/
def wide (n : Int) : Bool := Int64.minValue.toInt ≤ n && n < UInt64.size

mutual

/-- All numbers in the value are whole numbers of 64 bits. -/
def whole : Json → Bool
  | .int n => wide n
  | .double _ => false
  | .array items => wholeItems items
  | .object fields => wholeFields fields
  | _ => true
termination_by structural j => j

def wholeItems : List Json → Bool
  | [] => true
  | j :: rest => whole j && wholeItems rest
termination_by structural l => l

def wholeFields : List (String × Json) → Bool
  | [] => true
  | (_, j) :: rest => whole j && wholeFields rest
termination_by structural l => l

end

/-- A whole number by itself that is none of the integers of a value. -/
def isGreat : Json → Bool
  | .int n => !Value.fits n
  | _ => false

end Json

namespace Value

/-! ## The forms in their order -/

def readNull : Json → Option Value
  | .null => some .null
  | _ => none

def readBool : Json → Option Value
  | .bool b => some (.bool b)
  | _ => none

def readInt : Json → Option Value
  | .int n => if fits n then some (.int (Int64.ofInt n)) else none
  | _ => none

def readFloat : Json → Option Value
  | .int n => some (.float (.ofInt n))
  | .double d => some (.float d)
  | _ => none

def readString : Json → Option Value
  | .string s => some (.string s)
  | _ => none

def readDocument (j : Json) : Option Value := some (.json j)

def readList : Json → Option Value
  | .array items => some (.list (items.map ofJson))
  | _ => none

/-- The forms of a value, in the order in which they are tried. -/
def readers : List (Json → Option Value) :=
  [readNull, readBool, readInt, readFloat, readString, readDocument, readList]

/-- The value is what the first form reads that takes the JSON; a
document takes any. -/
theorem findSome?_readers (j : Json) : readers.findSome? (· j) = some (ofJson j) := by
  cases j with
  | int n =>
      by_cases hn : fits n = true
      · simp [readers, List.findSome?_cons, readNull, readBool, readInt, ofJson, hn]
      · simp [readers, List.findSome?_cons, readNull, readBool, readInt, readFloat, ofJson, hn]
  | null => rfl
  | bool b => rfl
  | double d => rfl
  | string s => rfl
  | array items => rfl
  | object fields => rfl

/-! ## What is written again -/

/-- A whole number that fits is written again as it was. -/
theorem toJson_ofJson_int {n : Int} (h : fits n = true) : (ofJson (.int n)).toJson = .int n := by
  simp only [ofJson, h, if_true, toJson, toInt_ofInt_of_fits h]

/-- A whole number of 64 bits that does not fit has no sign and the
highest bit set. -/
theorem great_bounds {n : Int} (hwide : Json.wide n = true) (h : fits n = false) :
    ((2 ^ 63 : Nat) : Int) ≤ n ∧ n < ((2 ^ 64 : Nat) : Int) := by
  have hleast : Int64.minValue.toInt = -2 ^ 63 := rfl
  have hgreatest : Int64.maxValue.toInt = 2 ^ 63 - 1 := rfl
  have hsize : (UInt64.size : Int) = 2 ^ 64 := rfl
  simp only [Json.wide, Bool.and_eq_true, decide_eq_true_eq, hleast, hsize] at hwide
  simp only [fits, Bool.and_eq_false_iff, decide_eq_false_iff_not, hleast, hgreatest] at h
  omega

/-- What a great whole number is read as: the multiple of 2048 nearest to
it, as a float. -/
structure Rounded (n : Int) (v : Value) (d : Double) : Prop where
  read : v = .float d
  written : v.toJson = .double d
  number : d.toRatio = (Double.roundDiv n.toNat 2048 * 2048, 1)

theorem rounded_ofJson {n : Int} (hwide : Json.wide n = true) (h : fits n = false) :
    Rounded n (ofJson (.int n)) (.ofInt n) := by
  obtain ⟨hlow, hhigh⟩ := great_bounds hwide h
  obtain ⟨m, rfl⟩ := Int.eq_ofNat_of_zero_le (le_trans (Int.natCast_nonneg _) hlow)
  obtain ⟨hfinite, hratio⟩ :=
    Double.toRatio_ofInt (e := 11) (Int.ofNat_le.mp hlow) (Int.ofNat_lt.mp hhigh) (by decide)
  have hread : ofJson (.int m) = .float (.ofInt m) := by
    simp only [ofJson, h, Bool.false_eq_true, if_false]
  refine ⟨hread, ?_, hratio⟩
  rw [hread, toJson, Json.ofDouble, if_pos hfinite]

/-- Apart from a great whole number by itself, what is written is the
JSON that was read. -/
theorem toJson_ofJson {j : Json} (hwhole : j.whole = true) (h : j.isGreat = false) :
    (ofJson j).toJson = j := by
  cases j with
  | int n => exact toJson_ofJson_int (by simpa [Json.isGreat] using h)
  | double d => simp [Json.whole] at hwhole
  | null => rfl
  | bool b => rfl
  | string s => rfl
  | array items => rfl
  | object fields => rfl

/-- A JSON value without fractions is always read, and it is written
again as it was unless it is a whole number by itself that is too great
for the integers of a value. That one becomes the double nearest to it,
so that even the number is kept only when 2048 divides it. -/
theorem ofJson_kept {j : Json} (hwhole : j.whole = true) :
    readers.findSome? (· j) = some (ofJson j) ∧
      ((ofJson j).toJson = j ↔ j.isGreat = false) ∧
      ∀ n, j = .int n → j.isGreat = true →
        ∃ d, Rounded n (ofJson j) d ∧ (d.toRatio = (n.toNat, 1) ↔ 2048 ∣ n) := by
  refine ⟨findSome?_readers j, ⟨fun hkept => ?_, toJson_ofJson hwhole⟩, ?_⟩
  · cases j with
    | int n =>
        by_contra hgreat
        have hfits : fits n = false := by simpa [Json.isGreat] using hgreat
        have hrounded := rounded_ofJson (by simpa [Json.whole] using hwhole) hfits
        cases hrounded.written.symm.trans hkept
    | _ => rfl
  · rintro n rfl hgreat
    have hfits : fits n = false := by simpa [Json.isGreat] using hgreat
    have hwide : Json.wide n = true := by simpa [Json.whole] using hwhole
    have hrounded := rounded_ofJson hwide hfits
    refine ⟨_, hrounded, ?_⟩
    have hsign : 0 ≤ n := le_trans (Int.natCast_nonneg _) (great_bounds hwide hfits).1
    -- The bounds leave no sign, so the number may be taken as a natural one.
    have hdvd : 2048 ∣ n.toNat ↔ (2048 : Int) ∣ n := by omega
    rw [hrounded.number, Prod.mk.injEq, and_iff_left rfl,
      Double.roundDiv_mul_eq_iff (by decide), hdvd]

/-- A document of numbers at both ends of the range. -/
def ends : Json := .object
  [("least", .int (-9223372036854775808)), ("most", .array [.int 18446744073709551615])]

/-- The document is kept, and of the great numbers the least, which 2048
divides, is kept as a number. -/
theorem ofJson_kept_ends :
    ends.whole = true ∧ (ofJson ends).toJson = ends ∧
      (Json.int 9223372036854775808).whole = true ∧
      ∃ d, Rounded 9223372036854775808 (ofJson (.int 9223372036854775808)) d ∧
        d.toRatio = (9223372036854775808, 1) := by
  have hends : ends.whole = true := by decide
  have hgreat : (Json.int 9223372036854775808).whole = true := by decide
  obtain ⟨d, hrounded, hnumber⟩ := (ofJson_kept hgreat).2.2 _ rfl (by decide)
  exact ⟨hends, (ofJson_kept hends).2.1.mpr (by decide), hgreat, d, hrounded,
    hnumber.mpr (by decide)⟩

/-- The first great number that is not a double: by itself it is read as
its predecessor is, so nothing written for it could be both; inside an
array it is kept. -/
theorem ofJson_merges_great :
    (Json.int 9223372036854775809).whole = true ∧
      ofJson (.int 9223372036854775809) = ofJson (.int 9223372036854775808) ∧
      (ofJson (.int 9223372036854775809)).toJson ≠ .int 9223372036854775809 ∧
      (ofJson (.array [.int 9223372036854775809])).toJson = .array [.int 9223372036854775809] := by
  have hdouble : Double.ofInt 9223372036854775809 = Double.ofInt 9223372036854775808 := by
    decide +kernel
  have hread : ∀ n, fits n = false → ofJson (.int n) = .float (.ofInt n) := by
    intro n h
    simp only [ofJson, h, Bool.false_eq_true, if_false]
  refine ⟨by decide, ?_, ?_, rfl⟩
  · rw [hread _ (by decide), hread _ (by decide), hdouble]
  · rw [hread _ (by decide), toJson, Json.ofDouble]
    intro heq
    split at heq <;> cases heq

end Value

end Criteria
