import Criteria.Filter.Restriction
import Criteria.Proofs.Sql.Leaves
import Criteria.Proofs.Success

/-!
# Restrictions and the forms of their tests

What a restriction compares its column with, said apart from the form of
its test, and the lemma that the form says the same: it has the operator
of the restriction, and its placeholders are numbered on from what is
bound, one for each operand in order (`form_ok`).
-/

namespace Criteria

open Sql (TestForm)

def Sql.TestForm.operator : TestForm → Operator
  | .isNull => .isNull
  | .between .. => .between
  | .inList _ => .inList
  | .like _ => .like
  | .compare c _ => .compare c

namespace Restriction

/-- What the column is compared with: nothing, both ends of a range, or
one value, which may be a list. -/
def operands (r : Restriction) : List Value :=
  match r.operator, r.operand with
  | some .isNull, _ => []
  | some .between, some (.list [start, finish]) => [start, finish]
  | some .between, _ => []
  | some _, some v => [v]
  | _, _ => []

variable {r : Restriction}

theorem needed_ok {operator : Operator} {v : Value} (h : r.needed operator = .ok v) :
    r.operand = some v := by
  unfold needed at h
  split at h
  · rename_i hoperand
    cases h
    exact hoperand
  · cases h

theorem bounds_ok {start finish : Value} (h : r.bounds = .ok (start, finish)) :
    r.operand = some (.list [start, finish]) := by
  unfold bounds at h
  split at h
  · rename_i hoperand
    split at h
    · cases h
    · cases h
      exact hoperand
  · cases h

theorem form_ok {bound : Nat} {f : TestForm} {values : List Value}
    (h : r.form bound = .ok (f, values)) :
    r.operator = some f.operator ∧ values = r.operands
      ∧ f.numbers = List.range' (bound + 1) values.length := by
  unfold form at h
  split at h
  · cases h
  · rename_i hop
    cases h
    exact ⟨hop, by simp [operands, hop], rfl⟩
  · rename_i hop
    obtain ⟨⟨start, finish⟩, hbounds, h⟩ := except_bind_ok.mp h
    cases h
    exact ⟨hop, by simp [operands, hop, bounds_ok hbounds], rfl⟩
  · rename_i hop
    obtain ⟨v, hv, h⟩ := except_bind_ok.mp h
    split at h
    · cases h
      exact ⟨hop, by simp [operands, hop, needed_ok hv], rfl⟩
    · cases h
  · rename_i hop
    obtain ⟨v, hv, h⟩ := except_bind_ok.mp h
    cases h
    exact ⟨hop, by simp [operands, hop, needed_ok hv], rfl⟩
  · rename_i c hop
    obtain ⟨v, hv, h⟩ := except_bind_ok.mp h
    cases h
    exact ⟨hop, by simp [operands, hop, needed_ok hv], rfl⟩

end Restriction

end Criteria
