import Criteria.Plan.Joins

/-!
# Columns of a plan

The columns that rows are ordered or grouped by. A path of associations
leads to the column's table and is joined where it is not yet, even if
the column turns out to stay as it is.
-/

namespace Criteria

/-- A column at a place. What is no plain name is an expression and
stays as it is, as does a name that the type is known not to have. -/
def Place.column (s : Schema) (here : Place) (column : String) : Except Failure String := do
  if !Sql.isPlain column then return column
  if (← s.hasColumn here.model column) = some false then return column
  return Sql.qualified false here.label column

namespace ColumnRef

def plan (s : Schema) (subject : Place) : ColumnRef → Planner String
  | .literal sql => return sql
  | .name column => subject.column s column
  | .path associations column => do
    let here ← subject.follow s associations
    here.column s column

def planAll (s : Schema) (subject : Place) : List ColumnRef → Planner (List String)
  | [] => return []
  | column :: rest => do
    let text ← column.plan s subject
    let others ← planAll s subject rest
    return text :: others

end ColumnRef

def OrderEntry.planAll (s : Schema) (subject : Place) :
    List OrderEntry → Planner (List (String × SortOrder))
  | [] => return []
  | entry :: rest => do
    let column ← entry.column.plan s subject
    let others ← OrderEntry.planAll s subject rest
    return (column, entry.direction) :: others

end Criteria
