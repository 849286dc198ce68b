import Criteria.Plan.Names
import Criteria.Schema
import Criteria.Sql.Condition

/-!
# Drafts

What a statement has so far while its filter is planned: the values
bound, the associations joined and the names in use, each in the order in
which it came in.
-/

namespace Criteria

open Sql (Condition Hop JoinKind)

/-- A condition that holds before the filter says anything, with values
for its question marks. -/
structure BaseCondition where
  condition : String
  values : List Value

/-- The base as the first part of a condition. -/
def BaseCondition.part (base : BaseCondition) : Condition :=
  .given base.condition 0 base.values.length

/-- A record type at its place in a statement. -/
structure Place where
  model : ModelId
  label : String
deriving DecidableEq, Repr

/-- An association joined from a place, and the tables it brings in. -/
structure JoinEntry where
  owner : String
  association : String
  kind : JoinKind
  label : String
  hops : List Hop
deriving DecidableEq, Repr

structure Draft where
  values : List Value := []
  joins : List JoinEntry := []
  names : Names := {}

namespace Draft

/-- The draft of a statement that has its subject and its base. -/
def start (table : String) (base : Option BaseCondition) : Draft :=
  { names := ⟨[table]⟩, values := (base.map (·.values)).getD [] }

/-- The number of values bound. -/
def bound (d : Draft) : Nat := d.values.length

def bind (d : Draft) (values : List Value) : Draft := { d with values := d.values ++ values }

/-- The entry of an association joined from a place, if there is one. -/
def entry? (d : Draft) (owner association : String) : Option JoinEntry :=
  d.joins.find? fun e => e.owner = owner && e.association = association

def join (d : Draft) (entry : JoinEntry) (names : Names) : Draft :=
  { d with joins := d.joins ++ [entry], names }

end Draft

/-- A step of planning, which adds to the draft or fails. -/
abbrev Planner := StateT Draft (Except Failure)

end Criteria
