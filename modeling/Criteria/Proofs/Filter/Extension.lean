import Criteria.Proofs.Filter.Built

/-!
# Scopes that calls extend

What further calls do to a scope that is there already. Children come in
at the end (`Scope.Reached.grows`), and so do orders and groupings: a
later call may have the last word on a limit or on the selected columns,
but it takes no order and no grouping back (`Scope.Reached.clauses_grow`).
Calls that fail change nothing, so a scope and one that extends it can be
compared without a look at the calls (`Scope.Extended.grows`,
`Scope.Extended.clauses`).
-/

namespace Criteria

/-! ## Clauses -/

namespace Clauses

/-- Orders and groupings were added at the end, if any. -/
structure Grows (c c' : Clauses) : Prop where
  order : c.order <+: c'.order
  groupBy : c.groupBy <+: c'.groupBy

variable {a b c : Clauses}

theorem Grows.refl (c : Clauses) : c.Grows c := ⟨List.prefix_rfl, List.prefix_rfl⟩

theorem Grows.trans (h : a.Grows b) (h' : b.Grows c) : a.Grows c :=
  ⟨h.order.trans h'.order, h.groupBy.trans h'.groupBy⟩

end Clauses

theorem ClauseCall.change_grows {call : ClauseCall} {c c' : Clauses}
    (h : call.change c = .ok c') : c.Grows c' := by
  cases call with
  | limit first second => cases second <;> cases h <;> exact ⟨List.prefix_rfl, List.prefix_rfl⟩
  | offset n =>
      cases h
      exact ⟨List.prefix_rfl, List.prefix_rfl⟩
  | orderBy column direction =>
      obtain ⟨column, -, h⟩ := except_bind_ok.mp h
      obtain ⟨order, -, h⟩ := except_bind_ok.mp h
      cases h
      exact ⟨List.prefix_append .., List.prefix_rfl⟩
  | groupBy column =>
      obtain ⟨column, -, h⟩ := except_bind_ok.mp h
      cases h
      exact ⟨List.prefix_rfl, List.prefix_append ..⟩
  | select columns =>
      cases h
      exact ⟨List.prefix_rfl, List.prefix_rfl⟩
  | distinct columns =>
      cases h
      split <;> exact ⟨List.prefix_rfl, List.prefix_rfl⟩

/-- What a group or a join declares has no clauses. -/
theorem Scope.Reached.clauses_grow {s t : Scope} (h : s.Reached t) :
    s.clauses.Grows t.clauses := by
  induction h with
  | refl s => exact .refl _
  | restrict _ _ ih => exact ih
  | group _ _ ih _ => exact ih
  | having _ _ ih _ => exact ih
  | clause _ _ hchange ih => exact ih.trans (ClauseCall.change_grows hchange)

/-! ## Extensions -/

/-- A scope after any number of further calls, some of which may have
failed. -/
inductive Scope.Extended (s : Scope) : Scope → Prop
  | refl : s.Extended s
  | call {t : Scope} (args : List Value) (step : Step) (h : s.Extended t) :
      s.Extended (step.run args t).1

namespace Scope.Extended

variable {s t : Scope}

theorem reached (h : s.Extended t) : s.Reached t := by
  induction h with
  | refl => exact .refl _
  | call args step _ ih => exact ih.trans (Step.run_reached args step _)

theorem grows (h : s.Extended t) : s.Grows t := h.reached.grows

theorem clauses (h : s.Extended t) : s.clauses.Grows t.clauses := h.reached.clauses_grow

/-- A whole body is so many calls, as far as it gets. -/
theorem runAll (h : s.Extended t) (args : List Value) (steps : List Step) :
    s.Extended (Step.runAll args steps t).1 := by
  induction steps generalizing t with
  | nil => exact h
  | cons step rest ih =>
      have hstep : s.Extended (step.run args t).1 := .call args step h
      rcases Step.runAll_cons args step rest t with hrun | hrun
      · rw [hrun]
        exact ih hstep
      · rw [hrun]
        exact hstep

theorem built (h : s.Extended t) (hs : s.Built) : t.Built := by
  induction h with
  | refl => exact hs
  | call args step _ ih => exact .call args step ih

end Scope.Extended

end Criteria
