import Criteria.Sql.Condition

/-!
# Leaves of a condition

The tests of a condition and the conditions from elsewhere, from left to
right, whatever connectives and negations stand over them. Joining parts
and closing a group leaves them as they are.
-/

namespace Criteria.Sql

/-- The placeholders of a test, from left to right. -/
def TestForm.numbers : TestForm → List Nat
  | .isNull => []
  | .between start finish => [start, finish]
  | .inList n => [n]
  | .like n => [n]
  | .compare _ n => [n]

namespace Condition

mutual

/-- The conditions inside one that hold no others, from left to right. -/
def leaves : Condition → List Condition
  | .given text bound count => [.given text bound count]
  | .test t => [.test t]
  | .not c => leaves c
  | .joined _ parts => allLeaves parts
termination_by structural c => c

def allLeaves : List Condition → List Condition
  | [] => []
  | c :: rest => leaves c ++ allLeaves rest
termination_by structural l => l

end

/-- The column of a test, and the label that it is qualified with. -/
def column? : Condition → Option (String × String)
  | .test t => some (t.label, t.column)
  | _ => none

/-- The numbers of the placeholders of a leaf, from left to right. -/
def numbers : Condition → List Nat
  | .given _ bound count => List.range' (bound + 1) count
  | .test t => t.form.numbers
  | _ => []

@[simp] theorem allLeaves_append (xs ys : List Condition) :
    allLeaves (xs ++ ys) = allLeaves xs ++ allLeaves ys := by
  induction xs with
  | nil => rfl
  | cons c rest ih => simp [allLeaves, ih]

theorem mem_allLeaves {c leaf : Condition} {parts : List Condition} (hc : c ∈ parts)
    (hleaf : leaf ∈ c.leaves) : leaf ∈ allLeaves parts := by
  induction parts with
  | nil => cases hc
  | cons d rest ih =>
      rcases List.mem_cons.mp hc with rfl | hc
      · exact List.mem_append_left _ hleaf
      · exact List.mem_append_right _ (ih hc)

theorem allLeaves_combine (connective : Connective) :
    ∀ parts, allLeaves (combine connective parts).toList = allLeaves parts
  | [] => rfl
  | [_] => rfl
  | _ :: _ :: _ => by simp [combine, allLeaves, leaves]

theorem leaves_negateIf (negated : Bool) (c : Condition) :
    leaves (negateIf negated c) = leaves c := by
  cases negated <;> rfl

end Condition

end Criteria.Sql
