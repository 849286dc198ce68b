import Criteria.Sql.Join
import Criteria.Text.Words

/-!
# Associations

How the rows of one record type belong to those of another. An
association is turned into SQL in two ways: as joins between an owner and
a target that stand in one statement (`Association.hops`), and as a
condition on the target alone for one owner whose key is bound
(`Association.scoping`). Both are built as equations between columns
first and written out afterwards.

A column that is not given is called after the record type whose key it
holds.
-/

namespace Criteria

open Sql (ColumnAt Hop JoinKind)

/-- A record type of a schema, by the order of registration. -/
structure ModelId where
  index : Nat
deriving DecidableEq, Repr

/-- A table between two record types, with the columns that hold the keys
of either side. -/
structure JoinTable where
  table : String
  sourceColumn : Option String := none
  targetColumn : Option String := none
deriving DecidableEq, Repr

inductive AssociationKind where
  | belongsTo
  | hasOne
  | hasMany
  | manyToMany (through : JoinTable)
deriving DecidableEq, Repr

structure Association where
  name : String
  kind : AssociationKind
  target : ModelId
  foreignKey : Option String := none
  primaryKey : String := "id"
deriving DecidableEq, Repr

/-- The table between, if there is one. -/
def Association.joinTable? (a : Association) : Option JoinTable :=
  match a.kind with
  | .manyToMany through => some through
  | _ => none

/-! ## Endpoints -/

/-- A record type as it stands in a statement: its table, the name that
the table goes by, and the type that its key columns are called after. -/
structure Endpoint where
  table : String
  label : String
  model : String
deriving DecidableEq, Repr

namespace Endpoint

/-- A table that goes by its own name. -/
def plain (table model : String) : Endpoint := ⟨table, table, model⟩

def under (e : Endpoint) (label : String) : Endpoint := { e with label }

def isAliased (e : Endpoint) : Bool := e.label != e.table

/-- The column that holds a key of this type elsewhere. -/
def keyColumn (e : Endpoint) : String := Text.snake e.model ++ "_id"

end Endpoint

/-! ## Key columns -/

namespace JoinTable

/-- The columns with the keys of the owner and of the target. -/
def keyColumns (j : JoinTable) (owner target : Endpoint) : String × String :=
  (j.sourceColumn.getD owner.keyColumn, j.targetColumn.getD target.keyColumn)

/-- The name that the table between goes by, which follows that of the
target. -/
def labelFor (j : JoinTable) (target : Endpoint) : String :=
  if target.isAliased then j.table ++ "_" ++ target.label else j.table

end JoinTable

namespace Association

/-- The column of the owner that names its target. -/
def ownKey (a : Association) : String := a.foreignKey.getD (Text.snake a.name ++ "_id")

/-- The column of the target that names its owner. -/
def targetKey (a : Association) (owner : Endpoint) : String := a.foreignKey.getD owner.keyColumn

/-! ## Joins -/

/-- The tables to join, in order, for one step from the owner. -/
def hops (a : Association) (owner target : Endpoint) : List Hop :=
  match a.kind with
  | .belongsTo =>
    [⟨target.table, target.label, ⟨target.label, a.primaryKey⟩, ⟨owner.label, a.ownKey⟩⟩]
  | .hasOne | .hasMany =>
    [⟨target.table, target.label, ⟨target.label, a.targetKey owner⟩,
      ⟨owner.label, a.primaryKey⟩⟩]
  | .manyToMany through =>
    let (sourceColumn, targetColumn) := through.keyColumns owner target
    let between := through.labelFor target
    [⟨through.table, between, ⟨between, sourceColumn⟩, ⟨owner.label, a.primaryKey⟩⟩,
      ⟨target.table, target.label, ⟨target.label, a.primaryKey⟩, ⟨between, targetColumn⟩⟩]

def joinClause (a : Association) (owner target : Endpoint) (kind : JoinKind) (quote : Bool) :
    String :=
  Hop.clause quote kind (a.hops owner target)

end Association

/-! ## Conditions for one owner -/

/-- Which column of the target is to equal the key of the owner, or to be
listed with it in a table between. -/
inductive Scoping where
  | keyed (column : ColumnAt)
  | through (column : ColumnAt) (table sourceColumn targetColumn : String)
deriving DecidableEq, Repr

def Scoping.text (quote : Bool) : Scoping → String
  | .keyed column => column.text quote ++ " = ?"
  | .through column table sourceColumn targetColumn =>
    let between := Sql.tableName quote table
    column.text quote ++ " IN (SELECT " ++ between ++ "." ++ targetColumn ++ " FROM " ++ between
      ++ " WHERE " ++ between ++ "." ++ sourceColumn ++ " = ?)"

namespace Association

def scoping (a : Association) (owner target : Endpoint) : Scoping :=
  match a.kind with
  | .belongsTo => .keyed ⟨target.label, a.primaryKey⟩
  | .hasOne | .hasMany => .keyed ⟨target.label, a.targetKey owner⟩
  | .manyToMany through =>
    let (sourceColumn, targetColumn) := through.keyColumns owner target
    .through ⟨target.label, a.primaryKey⟩ through.table sourceColumn targetColumn

/-- The condition on the target for one owner, its key the one
placeholder. -/
def scopingCondition (a : Association) (owner target : Endpoint) (quote : Bool) : String :=
  (a.scoping owner target).text quote

end Association

end Criteria
