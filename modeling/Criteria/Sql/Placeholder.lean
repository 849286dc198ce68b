import Criteria.Text.Numeral

/-!
# Placeholders

Where a statement leaves room for values. Values are numbered from one;
in one style every placeholder is a question mark, in the other it shows
its number.

A condition written elsewhere has question marks of its own. In the
numbered style each of them outside a string literal takes the next
number while values last, and nothing else of the text changes.
-/

namespace Criteria.Sql

inductive PlaceholderStyle where
  | question
  | dollar
deriving DecidableEq, Repr

def PlaceholderStyle.placeholder : PlaceholderStyle → Nat → String
  | .question, _ => "?"
  | .dollar, n => "$" ++ Text.numeral n

/-- The text with its live question marks replaced by the numbers after
`bound`, as many as `pending`. Two quotes inside a literal close and
reopen it, so they need no rule of their own. -/
def number (bound pending : Nat) (inLiteral : Bool) : List Char → List Char
  | [] => []
  | c :: rest =>
    if c = '\'' then c :: number bound pending (!inLiteral) rest
    else if c = '?' && !inLiteral && 0 < pending then
      '$' :: Text.digits (bound + 1) ++ number (bound + 1) (pending - 1) inLiteral rest
    else c :: number bound pending inLiteral rest

/-- A condition with `count` values of its own, taken in after `bound`
other values. -/
def PlaceholderStyle.renumber (style : PlaceholderStyle) (bound count : Nat)
    (condition : String) : String :=
  match style with
  | .question => condition
  | .dollar => String.ofList (number bound count false condition.toList)

end Criteria.Sql
