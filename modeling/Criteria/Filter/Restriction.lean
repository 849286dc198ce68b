import Criteria.Error.Cause
import Criteria.Sql.Condition
import Criteria.Value

/-!
# Restrictions

A column and what is asked of it. A restriction starts without an
operator and each call of an operator replaces the one before, operand
and all; whether it makes sense is looked at when it is turned into a
test.
-/

namespace Criteria

open Sql (Comparison TestForm)

inductive Operator where
  | compare (c : Comparison)
  | inList
  | like
  | isNull
  | between
deriving DecidableEq, Repr

def Operator.name : Operator → String
  | .compare .equal => "equal_to"
  | .compare .less => "less_than"
  | .compare .lessOrEqual => "less_than_or_equal_to"
  | .compare .greater => "greater_than"
  | .compare .greaterOrEqual => "greater_than_or_equal_to"
  | .inList => "in"
  | .like => "like"
  | .isNull => "is_null"
  | .between => "between"

structure Restriction where
  column : String
  negated : Bool := false
  operator : Option Operator := none
  operand : Option Value := none

namespace Restriction

/-! ## Operators -/

def compare (r : Restriction) (c : Comparison) (v : Value) : Restriction :=
  { r with operator := some (.compare c), operand := some v }

def inList (r : Restriction) (v : Value) : Restriction :=
  { r with operator := some .inList, operand := some v }

def like (r : Restriction) (v : Value) : Restriction :=
  { r with operator := some .like, operand := some v }

def isNull (r : Restriction) : Restriction :=
  { r with operator := some .isNull, operand := none }

def between (r : Restriction) (bounds : Value) : Restriction :=
  { r with operator := some .between, operand := some bounds }

/-- Equal to a value, where nothing equals null. -/
def equalOrNull (r : Restriction) (v : Value) : Restriction :=
  if v.isNull then r.isNull else r.compare .equal v

/-! ## Tests -/

/-- A value for a placeholder, which an operator cannot do without. -/
def needed (r : Restriction) (operator : Operator) : Except RestrictionProblem Value :=
  match r.operand with
  | some v => .ok v
  | none => .error (.noOperand operator.name)

/-- Both ends of a range, neither of them null. -/
def bounds (r : Restriction) : Except RestrictionProblem (Value × Value) :=
  match r.operand with
  | some (.list [start, finish]) =>
    if start.isNull || finish.isNull then .error .noBounds else .ok (start, finish)
  | _ => .error .noBounds

/-- The form of the test, and the values that its placeholders stand for,
when `bound` values are bound already. A list of values has one
placeholder. -/
def form (r : Restriction) (bound : Nat) : Except RestrictionProblem (TestForm × List Value) :=
  match r.operator with
  | none => .error .noOperator
  | some .isNull => .ok (.isNull, [])
  | some .between => do
    let (start, finish) ← r.bounds
    return (.between (bound + 1) (bound + 2), [start, finish])
  | some .inList => do
    let v ← r.needed .inList
    if v.isList then return (.inList (bound + 1), [v]) else throw (.notAList v.kind)
  | some .like => do
    let v ← r.needed .like
    return (.like (bound + 1), [v])
  | some (.compare c) => do
    let v ← r.needed (.compare c)
    return (.compare c (bound + 1), [v])

end Restriction

end Criteria
