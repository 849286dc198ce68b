import Criteria.Filter.Scope
import Criteria.Proofs.Filter.Restriction
import Criteria.Proofs.Sql.Logic

/-!
# What a filter tree means

The meaning of a tree, by the tree alone. It is relative to truth values
of what restrictions assert, and to a naming of the places that they
stand at.

A group means its connective over those of its children that mean
something, a join the conjunction of its body. A group or a join without
such a child means nothing, which is different from being true: it
vanishes from the group around it.
-/

namespace Criteria

open Sql (Connective Truth)

/-- What a restriction says of its column before it is negated. An operand
may be missing where it is to be found by a number. -/
structure Assertion where
  label : String
  column : String
  operator : Option Operator
  operands : List (Option Value)

def Restriction.assertion (label : String) (r : Restriction) : Assertion :=
  { label, column := r.column, operator := r.operator, operands := r.operands.map some }

mutual

def Node.meaning (v : Assertion → Truth) (name : List String → String) (path : List String) :
    Node → Option Truth
  | .restriction r => some (.negateIf r.negated (v (r.assertion (name path))))
  | .group ⟨connective, negated, children⟩ =>
    (connective.fold (Node.meanings v name path children)).map (.negateIf negated)
  | .join association _ ⟨_, _, children⟩ =>
    Connective.all.fold (Node.meanings v name (path ++ [association]) children)
termination_by structural n => n

/-- The meanings of the children that have one. -/
def Node.meanings (v : Assertion → Truth) (name : List String → String) (path : List String) :
    List Node → List Truth
  | [] => []
  | child :: rest => (child.meaning v name path).toList ++ Node.meanings v name path rest
termination_by structural l => l

end

def Scope.meaning (v : Assertion → Truth) (name : List String → String) (scope : Scope) :
    Option Truth :=
  (Node.group scope.group).meaning v name []

/-- What an atom of a condition says, its placeholders replaced by the
values that are bound to them. -/
def Sql.Atom.assertion (values : List Value) (a : Sql.Atom) : Assertion :=
  { label := a.label
    column := a.column
    operator := some a.form.operator
    operands := a.form.numbers.map fun n => values[n - 1]? }

end Criteria
