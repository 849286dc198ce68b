import Criteria.Text.Numeral

/-!
# Numerals read back

A numeral has digits only and tells its number.
-/

namespace Criteria.Text

theorem isDigit_of_mem_digits {n : Nat} {c : Char} (h : c ∈ digits n) : c.isDigit = true :=
  Nat.isDigit_of_mem_toDigits (by decide) (by decide) h

theorem ofDigitChars_digits (n : Nat) : Nat.ofDigitChars 10 (digits n) 0 = n :=
  Nat.ofDigitChars_ten_toDigits

theorem digits_injective {m n : Nat} (h : digits m = digits n) : m = n := by
  have hread := congrArg (Nat.ofDigitChars 10 · 0) h
  simpa only [ofDigitChars_digits] using hread

theorem toList_numeral (n : Nat) : (numeral n).toList = digits n := String.toList_ofList

theorem numeral_injective {m n : Nat} (h : numeral m = numeral n) : m = n :=
  digits_injective (String.ofList_injective h)

end Criteria.Text
