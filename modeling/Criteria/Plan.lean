import Criteria.Plan.Columns
import Criteria.Plan.Conditions
import Criteria.Query

/-!
# Plans

A filter is planned before anything is written out. Planning walks the
tree once, in the order of the document, and then the orders and the
groupings, and keeps a draft of what the statement has so far.

A plan knows neither the style of placeholders nor the quoting of
tables; those come in when `Plan.query` writes it out.
-/

namespace Criteria

open Sql (Condition Hop)

structure Plan where
  condition : Option Condition
  values : List Value
  joins : List JoinEntry
  order : List (String × SortOrder)
  groupBy : List String
  clauses : Clauses

/-- The parts of the condition, the orders and the groupings of a scope. -/
def Scope.plan (s : Schema) (subject : Place) (scope : Scope) :
    Planner (List Condition × List (String × SortOrder) × List String) := do
  let parts ← Node.planAll s scope.group.connective subject scope.group.children
  let order ← OrderEntry.planAll s subject scope.clauses.order
  let groupBy ← ColumnRef.planAll s subject scope.clauses.groupBy
  return (parts, order, groupBy)

/-- The plan of a filter on a record type. The base comes first in the
condition. -/
def Schema.plan (s : Schema) (id : ModelId) (scope : Scope) (base : Option BaseCondition) :
    Except Failure Plan := do
  let table ← s.table id
  let subject : Place := { model := id, label := table }
  let ((parts, order, groupBy), draft) ← (scope.plan s subject).run (.start table base)
  return {
    condition := Condition.combine .all ((base.map (·.part)).toList ++ parts)
    values := draft.values
    joins := draft.joins
    order, groupBy
    clauses := scope.clauses }

/-! ## Plans written out -/

/-- Texts joined by commas, if there are any. -/
def commaList (texts : List String) : Option String :=
  if texts.isEmpty then none else some (", ".intercalate texts)

def Plan.query (config : Config) (p : Plan) : Query :=
  { condition := p.condition.map (Condition.text config)
    bindValues := p.values
    joins := p.joins.map fun e => Hop.clause config.quoteTables e.kind e.hops
    limit := p.clauses.limit
    offset := p.clauses.offset
    order := commaList (p.order.map fun o => o.1 ++ " " ++ o.2.sql)
    groupBy := commaList p.groupBy
    selected := p.clauses.selected
    distinct := p.clauses.distinct }

/-- The query of a filter on a record type. -/
def Schema.compile (s : Schema) (config : Config) (id : ModelId) (scope : Scope)
    (base : Option BaseCondition) : Except Failure Query := do
  let plan ← s.plan id scope base
  return plan.query config

end Criteria
