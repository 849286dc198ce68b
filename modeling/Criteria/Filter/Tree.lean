import Criteria.Filter.Restriction
import Criteria.Sql.Join

/-!
# Filter trees

What a filter asks of the rows: restrictions, groups of them under a
connective, perhaps negated, and joins that ask something of associated
rows. The body of a join is a group of its own.
-/

namespace Criteria

open Sql (Connective JoinKind)

/-- Children under a connective. -/
structure GroupOf (ν : Type) where
  connective : Connective
  negated : Bool := false
  children : List ν := []

inductive Node where
  | restriction (r : Restriction)
  | group (g : GroupOf Node)
  | join (association : String) (kind : JoinKind) (body : GroupOf Node)

abbrev Group := GroupOf Node

namespace GroupOf

variable {ν : Type}

/-- The conjunction of nothing yet. -/
def conjunction : GroupOf ν := { connective := .all }

def add (g : GroupOf ν) (child : ν) : GroupOf ν := { g with children := g.children ++ [child] }

def isEmpty (g : GroupOf ν) : Bool := g.children.isEmpty

end GroupOf

end Criteria
