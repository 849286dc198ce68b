import Criteria.Sql.Identifier

/-!
# Joins

Tables that are joined to a statement. A hop is one table with the
equation that joins it; a step over an association takes one hop, or two
if there is a table between.
-/

namespace Criteria.Sql

inductive JoinKind where
  | inner
  | left
deriving DecidableEq, Repr

def JoinKind.keywords : JoinKind → String
  | .inner => "INNER JOIN"
  | .left => "LEFT OUTER JOIN"

/-- A column under the name that its table goes by in the statement. -/
structure ColumnAt where
  label : String
  column : String
deriving DecidableEq, Repr

def ColumnAt.text (quote : Bool) (c : ColumnAt) : String :=
  tableName quote c.label ++ "." ++ c.column

/-- A table, the name it goes by in the statement, and the equation that
joins it. -/
structure Hop where
  table : String
  label : String
  left : ColumnAt
  right : ColumnAt
deriving DecidableEq, Repr

namespace Hop

/-- The table, with its alias if it goes by another name. -/
def declaration (quote : Bool) (h : Hop) : String :=
  if h.label = h.table then tableName quote h.table
  else tableName quote h.table ++ " AS " ++ tableName quote h.label

def text (quote : Bool) (kind : JoinKind) (h : Hop) : String :=
  kind.keywords ++ " " ++ h.declaration quote ++ " ON " ++ h.left.text quote ++ " = "
    ++ h.right.text quote

/-- Hops of one kind, one after another. -/
def clause (quote : Bool) (kind : JoinKind) (hops : List Hop) : String :=
  " ".intercalate (hops.map (text quote kind))

end Hop

end Criteria.Sql
