/-!
# Character classes

A class of characters is a list of runs of code points: first, last and
the stride between members. Strides other than one keep the alternating
capital and small letters of the Latin and Cyrillic extensions short.
Membership is a scan of the runs; the tables of the other modules of
this folder are values of this type.
-/

namespace Criteria.Text

/-- The code points `first`, `first + stride`, … up to `last`. -/
structure Run where
  first : Nat
  last : Nat
  stride : Nat := 1

def Run.contains (r : Run) (n : Nat) : Bool :=
  decide (r.first ≤ n) && decide (n ≤ r.last) && (n - r.first) % r.stride == 0

structure CharClass where
  runs : List Run

namespace CharClass

/-- The class whose members are those of the given closed spans. -/
def ofSpans (rows : List (List (Nat × Nat))) : CharClass :=
  ⟨rows.flatten.map fun s => { first := s.1, last := s.2 }⟩

def contains (k : CharClass) (c : Char) : Bool :=
  k.runs.any (·.contains c.toNat)

end CharClass

end Criteria.Text
