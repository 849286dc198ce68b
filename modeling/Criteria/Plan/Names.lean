import Criteria.Text.Numeral

/-!
# Names in a statement

The names that the tables of a statement go by. A table keeps its own
name while that is free. Otherwise it is called after the association
that brings it in and the owner of the association, with the least number
from two on if that name is in use as well.

The search for a number strikes off every name it meets, so it ends with
the names.
-/

namespace Criteria

structure Names where
  used : List String := []
deriving DecidableEq, Repr

namespace Names

def contains (ns : Names) (name : String) : Bool := ns.used.contains name

def insert (ns : Names) (name : String) : Names := ⟨ns.used ++ [name]⟩

def numbered (base : String) (n : Nat) : String := base ++ "_" ++ Text.numeral n

/-- The first of `base_n`, `base_(n + 1)`, … that is not in use. The
numbers have no end here; a counter of 32 bits would have one. The search
from two on stops at one more than the names in use at the latest
(`Names.least_le_length`), so the two differ only if more than `2 ^ 31 - 2`
names are in use. -/
def firstFree (used : List String) (base : String) (n : Nat) : String :=
  if h : numbered base n ∈ used then firstFree (used.erase (numbered base n)) base (n + 1)
  else numbered base n
termination_by used.length
decreasing_by
  rw [List.length_erase_of_mem h]
  exact Nat.sub_lt (List.length_pos_of_mem h) Nat.zero_lt_one

/-- The base itself if it is free, or else with a number. -/
def fresh (ns : Names) (base : String) : String :=
  if ns.contains base then firstFree ns.used base 2 else base

/-- A name for a table that an association brings in. Where something
else speaks against it, the table does not keep its own name even if that
is free. -/
def choose (ns : Names) (table association owner : String) (forced : Bool) : String :=
  if forced || ns.contains table then ns.fresh (association ++ "_" ++ owner) else table

/-- The name chosen for a table, and the names in use with it. -/
def claim (ns : Names) (table association owner : String) (forced : Bool) : String × Names :=
  let name := ns.choose table association owner forced
  (name, ns.insert name)

end Names

end Criteria
