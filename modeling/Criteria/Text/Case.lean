import Criteria.Text.CaseTable

/-!
# Small letters

The lower-case form of a text under the full mapping of the standard: a
character becomes its small form, a capital sigma at the end of a word
becomes a final sigma, and U+0130 becomes two characters. Whether a
sigma ends a word is read off both sides of it, past the characters that
the rule ignores.
-/

namespace Criteria.Text

/-- The distance from a capital letter to its small form. -/
def lowerShift? (n : Nat) : Option Int :=
  (lowerRuns.find? (·.1.contains n)).map (·.2)

/-- The small form of a character by itself. -/
def lowerChar (c : Char) : List Char :=
  if c.toNat = 0x130 then ['i', Char.ofNat 0x307]
  else match lowerShift? c.toNat with
    | some d => [Char.ofNat (c.toNat + d).toNat]
    | none => [c]

def changesWhenLowercased (c : Char) : Bool :=
  c.toNat == 0x130 || (lowerShift? c.toNat).isSome

/-- Some cased character is met first, past the ignorable ones. -/
def meetsCased (cs : List Char) : Bool :=
  match cs.dropWhile caseIgnorable.contains with
  | c :: _ => cased.contains c
  | [] => false

/-- A sigma between `before` (nearest first) and `after` ends its word. -/
def endsWord (before after : List Char) : Bool :=
  meetsCased before && !meetsCased after

/-- Lower-casing with the characters already passed, nearest first. -/
def lowerFrom (before : List Char) : List Char → List Char
  | [] => []
  | c :: rest =>
    (if c = 'Σ' then [if endsWord before rest then 'ς' else 'σ'] else lowerChar c)
      ++ lowerFrom (c :: before) rest

def lowerChars (cs : List Char) : List Char := lowerFrom [] cs

def lower (s : String) : String := String.ofList (lowerChars s.toList)

/-- Equal to its upper-case form and different from its lower-case one. -/
def isUpperCase (cs : List Char) : Bool :=
  cs.all (!changesWhenUppercased.contains ·) && cs.any changesWhenLowercased

/-- Equal to its lower-case form and different from its upper-case one. -/
def isLowerCase (cs : List Char) : Bool :=
  cs.all (!changesWhenLowercased ·) && cs.any changesWhenUppercased.contains

end Criteria.Text
