import Criteria.Error
import Criteria.Filter.Column

/-!
# Structural clauses

What a filter says beside its condition: how many rows, from which on,
in which order, grouped by what, which columns, and whether without
repetition. Orders and groupings add up; of the others the last word
counts.
-/

namespace Criteria

inductive SortOrder where
  | asc
  | desc
deriving DecidableEq, Repr

def SortOrder.sql : SortOrder → String
  | .asc => "ASC"
  | .desc => "DESC"

/-- A direction as it is given: settled, or a word to be read. -/
inductive Direction where
  | settled (order : SortOrder)
  | word (text : String)
deriving DecidableEq, Repr

/-- The order that a direction denotes. ASCII letters may be of either
case, and no blanks are allowed. -/
def Direction.read : Direction → Except Failure SortOrder
  | .settled order => .ok order
  | .word text =>
    if text.toLower = "asc" then .ok .asc
    else if text.toLower = "desc" then .ok .desc
    else .error (.of (.invalidDirection text))

structure OrderEntry where
  column : ColumnRef
  direction : SortOrder
deriving DecidableEq, Repr

structure Clauses where
  limit : Option UInt64 := none
  offset : Option UInt64 := none
  order : List OrderEntry := []
  groupBy : List ColumnRef := []
  selected : Option (List String) := none
  distinct : Bool := false
deriving DecidableEq, Repr

namespace Clauses

/-- No clause was given. -/
def isEmpty (c : Clauses) : Bool := c == {}

def withLimit (c : Clauses) (n : UInt64) : Clauses := { c with limit := some n }

def withOffset (c : Clauses) (n : UInt64) : Clauses := { c with offset := some n }

def addOrder (c : Clauses) (column : ColumnRef) (direction : SortOrder) : Clauses :=
  { c with order := c.order ++ [⟨column, direction⟩] }

def addGroupBy (c : Clauses) (column : ColumnRef) : Clauses :=
  { c with groupBy := c.groupBy ++ [column] }

def withSelected (c : Clauses) (columns : List String) : Clauses :=
  { c with selected := some columns }

def withDistinct (c : Clauses) : Clauses := { c with distinct := true }

end Clauses

end Criteria
