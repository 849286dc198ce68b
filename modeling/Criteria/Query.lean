import Criteria.Sql.Identifier
import Criteria.Text.Numeral
import Criteria.Value

/-!
# Queries

What a filter comes to when it is compiled: the condition with its bind
values, the joins, and the structural clauses as texts. A query can be
written out as one select statement.
-/

namespace Criteria

structure Query where
  condition : Option String := none
  bindValues : List Value := []
  joins : List String := []
  limit : Option UInt64 := none
  offset : Option UInt64 := none
  order : Option String := none
  groupBy : Option String := none
  selected : Option (List String) := none
  distinct : Bool := false

namespace Query

/-- All rows are meant; in which order and which of their columns does
not matter. -/
def isUnrestricted (q : Query) : Bool :=
  q.condition.isNone && q.joins.isEmpty && q.limit.isNone && q.offset.isNone && q.groupBy.isNone

/-! ## As a statement -/

/-- The columns that are named, or all of the table. -/
def selectList (q : Query) (table : String) : String :=
  match q.selected with
  | some (c :: cs) => ", ".intercalate (c :: cs)
  | _ => table ++ ".*"

/-- A clause with its keyword, if there is one. -/
def clause (keyword : String) : Option String → String
  | some text => " " ++ keyword ++ " " ++ text
  | none => ""

def selectSql (q : Query) (tableName : String) : String :=
  let table := Sql.quoted tableName
  "SELECT " ++ (if q.distinct then "DISTINCT " else "") ++ q.selectList table
    ++ " FROM " ++ table
    ++ String.join (q.joins.map (" " ++ ·))
    ++ clause "WHERE" q.condition
    ++ clause "GROUP BY" q.groupBy
    ++ clause "ORDER BY" q.order
    ++ clause "LIMIT" (q.limit.map fun n => Text.numeral n.toNat)
    ++ clause "OFFSET" (q.offset.map fun n => Text.numeral n.toNat)

end Query

end Criteria
