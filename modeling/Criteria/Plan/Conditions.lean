import Criteria.Plan.Joins

/-!
# Conditions of a plan

The tree of a filter as parts of a condition, in the order of the
document. Restrictions become tests with numbered placeholders. Groups
under the connective of their parent are spliced into it, others become
parts of their own, and what has no part vanishes. The body of a join is
a conjunction, so it is spliced where a conjunction is asked for.
-/

namespace Criteria

open Sql (Condition Connective)

/-- The test of a restriction, its values bound. -/
def Restriction.plan (s : Schema) (here : Place) (r : Restriction) : Planner Condition := do
  let draft ← get
  match r.form draft.bound with
  | .ok (form, values) =>
    set (draft.bind values)
    return .test { label := here.label, column := r.column, negated := r.negated, form }
  | .error problem =>
    let model ← s.name here.model
    throw ((Failure.of (.malformedRestriction r.column problem)).map (·.withModel model))

/-- The parts of a group as one part, if there are any. -/
def closeGroup (connective : Connective) (negated : Bool) (parts : List Condition) :
    List Condition :=
  ((Condition.combine connective parts).map (Condition.negateIf negated)).toList

mutual

/-- The parts that a child contributes to a group under the given
connective. -/
def Node.plan (s : Schema) (outer : Connective) (here : Place) : Node → Planner (List Condition)
  | .restriction r => do
    let part ← r.plan s here
    return [part]
  | .group ⟨connective, negated, children⟩ => do
    let parts ← Node.planAll s connective here children
    if connective = outer && !negated then return parts
    else return closeGroup connective negated parts
  | .join association kind ⟨connective, negated, children⟩ => do
    let target ← here.enter s association kind
    let parts ← Node.planAll s connective target children
    if outer = .all then return parts
    else return closeGroup connective negated parts
termination_by structural n => n

def Node.planAll (s : Schema) (outer : Connective) (here : Place) :
    List Node → Planner (List Condition)
  | [] => return []
  | child :: rest => do
    let parts ← child.plan s outer here
    let others ← Node.planAll s outer here rest
    return parts ++ others
termination_by structural l => l

end

end Criteria
