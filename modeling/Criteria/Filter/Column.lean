import Criteria.Text.Blank

/-!
# Column references

A column of the filtered record type by its name, a column reached over
associations, or an expression that is used as it stands.
-/

namespace Criteria

inductive ColumnRef where
  | name (column : String)
  | path (associations : List String) (column : String)
  | literal (sql : String)
deriving DecidableEq, Repr

namespace ColumnRef

/-- A reference from its steps, the last of them the column. One step
alone is a name, and no step at all the empty name. -/
def ofPath (steps : List String) : ColumnRef :=
  match steps.getLast?, steps.dropLast with
  | none, _ => .name ""
  | some column, [] => .name column
  | some column, associations => .path associations column

/-- Nothing but white space is given as the column. -/
def isBlank : ColumnRef → Bool
  | .name column => Text.isBlank column
  | .path _ column => Text.isBlank column
  | .literal sql => Text.isBlank sql

def describe : ColumnRef → String
  | .name column => column
  | .path associations column => " => ".intercalate (associations ++ [column])
  | .literal sql => sql

end ColumnRef

end Criteria
