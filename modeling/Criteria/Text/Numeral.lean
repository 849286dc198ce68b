/-!
# Numerals

Whole numbers in base ten, without padding; a negative one has a minus
sign.
-/

namespace Criteria.Text

def digits (n : Nat) : List Char := Nat.toDigits 10 n

def numeral (n : Nat) : String := String.ofList (digits n)

def signedNumeral (i : Int) : String :=
  String.ofList (if i < 0 then '-' :: digits i.natAbs else digits i.natAbs)

end Criteria.Text
