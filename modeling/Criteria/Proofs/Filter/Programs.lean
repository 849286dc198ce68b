import Criteria.Proofs.Filter.Extension
import Criteria.Proofs.Filter.Sequence

/-!
# Programs for bodies

Bodies may be any functions of a scope, programs are data. As far as calls
go nothing is lost by that: whatever calls can make of a scope, be they
made by a body that looks at the scope or at its arguments and branches, a
program makes of it as well (`Scope.Reached.exists_program`). So the root
scopes that programs build are those that calls build
(`Scope.built_iff_tried`).
-/

namespace Criteria

theorem OperatorCall.applyAll_append (args : List Value) (r : Restriction)
    (xs ys : List OperatorCall) : OperatorCall.applyAll args r (xs ++ ys)
      = OperatorCall.applyAll args r xs >>= fun r => OperatorCall.applyAll args r ys := by
  induction xs generalizing r with
  | nil => rfl
  | cons call xs ih =>
      rw [List.cons_append, applyAll, applyAll]
      cases call.apply args r with
      | error f => rfl
      | ok r => exact ih r

/-- One operator more. -/
theorem OperatorCall.exists_concat {args : List Value} {bare r r' : Restriction}
    (h : ∃ calls, applyAll args bare calls = .ok r) (call : OperatorCall)
    (hcall : call.apply args r = .ok r') : ∃ calls, applyAll args bare calls = .ok r' := by
  obtain ⟨calls, hcalls⟩ := h
  refine ⟨calls ++ [call], ?_⟩
  rw [applyAll_append, hcalls]
  exact except_bind_ok.mpr ⟨r, rfl, except_bind_ok.mpr ⟨r', hcall, rfl⟩⟩

/-- The calls that make a restriction, with the operands as they are. -/
theorem Restriction.Called.exists_calls {r : Restriction} (h : r.Called) (args : List Value) :
    ∃ calls, OperatorCall.applyAll args { column := r.column, negated := r.negated } calls
      = .ok r := by
  induction h with
  | bare column negated => exact ⟨[], rfl⟩
  | isNull _ ih => exact OperatorCall.exists_concat ih .isNull rfl
  | compare c v _ ih => exact OperatorCall.exists_concat ih (.compare c (.value v)) rfl
  | inList v _ ih => exact OperatorCall.exists_concat ih (.inList (.value v)) rfl
  | like v _ ih => exact OperatorCall.exists_concat ih (.like (.value v)) rfl
  | between bounds _ ih => exact OperatorCall.exists_concat ih (.between (.value bounds)) rfl

namespace ClauseCall

/-- The step that makes the call. -/
def step : ClauseCall → Step
  | .limit first second => .limit (.literal first) (second.map .literal)
  | .offset n => .offset (.literal n)
  | .orderBy column direction => .orderBy column direction
  | .groupBy column => .groupBy column
  | .select columns => .select columns
  | .distinct columns => .distinct columns

theorem run_step (args : List Value) (call : ClauseCall) (s : Scope) :
    call.step.run args s = call.edit.on s := by
  cases call with
  | limit first second => cases second <;> rfl
  | _ => rfl

end ClauseCall

theorem Step.runAll_concat {args : List Value} {steps : List Step} {step : Step} {s t u : Scope}
    (h : Step.runAll args steps s = (t, .ok ())) (hstep : step.run args t = (u, .ok ())) :
    Step.runAll args (steps ++ [step]) s = (u, .ok ()) := by
  rw [Step.runAll_append h, Step.runAll, hstep]
  rfl

namespace Scope

variable {s t : Scope}

/-- One step for each call, and none of them fails. -/
theorem Reached.exists_program (h : s.Reached t) (args : List Value) :
    ∃ steps, Step.runAll args steps s = (t, .ok ()) := by
  induction h with
  | refl s => exact ⟨[], rfl⟩
  | @restrict s t r _ hr ih =>
      obtain ⟨steps, hsteps⟩ := ih
      obtain ⟨calls, hcalls⟩ := hr.exists_calls args
      refine ⟨steps ++ [.restrict r.column r.negated calls], Step.runAll_concat hsteps ?_⟩
      rw [Step.run, restrictCall, hcalls]
      rfl
  | @group s t inner connective negated _ _ ih ihBody =>
      obtain ⟨steps, hsteps⟩ := ih
      obtain ⟨body, hbody⟩ := ihBody
      refine ⟨steps ++ [.group connective negated body], Step.runAll_concat hsteps ?_⟩
      rw [Step.run, groupOf, inGroup, hbody]
      rfl
  | @having s t inner association kind _ _ ih ihBody =>
      obtain ⟨steps, hsteps⟩ := ih
      obtain ⟨body, hbody⟩ := ihBody
      refine ⟨steps ++ [.having association kind body], Step.runAll_concat hsteps ?_⟩
      rw [Step.run, Scope.having, inJoin, GroupOf.conjunction, hbody]
      rfl
  | @clause s t call clauses _ hroot hchange ih =>
      obtain ⟨steps, hsteps⟩ := ih
      refine ⟨steps ++ [call.step], Step.runAll_concat hsteps ?_⟩
      rw [ClauseCall.run_step, ClauseCall.on_root hroot, hchange]

/-- Programs build what calls build, whichever bodies make them. -/
theorem built_iff_tried : s.Built ↔ Scope.root.Tried s := by
  constructor
  · intro h
    induction h with
    | root => exact .refl _
    | call args step _ ih => exact ih.trans (Step.run_calls args step _)
  · intro h
    obtain ⟨steps, hsteps⟩ := h.reached.exists_program []
    have hextended := (.refl : Scope.root.Extended .root).runAll [] steps
    rw [hsteps] at hextended
    exact hextended.built .root

end Scope

end Criteria
