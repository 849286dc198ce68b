import Criteria.Proofs.Filter.Calls

/-!
# Scopes that calls build

Whatever the calls of a filter are and wherever one of them fails, a
scope only grows: its kind, its connective and its negation stay, and
children come in at the end (`Scope.Reached.grows`). The bodies of joins
are scopes of their own that start as a conjunction, so in a tree that was
built by calls they all are one (`Scope.Built.proper`). The planner
relies on it where it splices the body of a join into a conjunction.
-/

namespace Criteria

/-! ## Proper trees -/

mutual

/-- The body of every join is a conjunction, and not negated. -/
def Node.Proper : Node → Prop
  | .restriction _ => True
  | .group ⟨_, _, children⟩ => Node.AllProper children
  | .join _ _ ⟨connective, negated, children⟩ =>
    connective = .all ∧ negated = false ∧ Node.AllProper children
termination_by structural n => n

def Node.AllProper : List Node → Prop
  | [] => True
  | child :: rest => child.Proper ∧ Node.AllProper rest
termination_by structural l => l

end

theorem Node.allProper_append {xs ys : List Node} (hx : Node.AllProper xs)
    (hy : Node.AllProper ys) : Node.AllProper (xs ++ ys) := by
  induction xs with
  | nil => exact hy
  | cons x xs ih => exact ⟨hx.1, ih hx.2⟩

/-! ## Structural clauses -/

namespace Scope

/-- The same scope but for its clauses. -/
def SameTree (s t : Scope) : Prop := ∃ clauses, t = { s with clauses }

variable {s t u : Scope}

theorem SameTree.refl (s : Scope) : s.SameTree s := ⟨s.clauses, rfl⟩

/-! ## Growth -/

/-- Proper children were added at the end; otherwise the tree is the
same. -/
structure Grows (s t : Scope) : Prop where
  kind : t.kind = s.kind
  group : ∃ added, Node.AllProper added
    ∧ t.group = { s.group with children := s.group.children ++ added }

theorem Grows.of_sameTree (h : s.SameTree t) : s.Grows t := by
  obtain ⟨clauses, rfl⟩ := h
  exact ⟨rfl, [], trivial, by rw [List.append_nil]⟩

theorem Grows.refl (s : Scope) : s.Grows s := .of_sameTree (.refl s)

theorem Grows.trans (h : s.Grows t) (h' : t.Grows u) : s.Grows u := by
  obtain ⟨hkind, xs, hxs, hgroup⟩ := h
  obtain ⟨hkind', ys, hys, hgroup'⟩ := h'
  refine ⟨hkind'.trans hkind, xs ++ ys, Node.allProper_append hxs hys, ?_⟩
  rw [hgroup', hgroup, List.append_assoc]

theorem Grows.add (s : Scope) {node : Node} (h : node.Proper) : s.Grows (s.add node) :=
  ⟨rfl, [node], ⟨h, trivial⟩, rfl⟩

/-- What calls make of a scope is more of it. The body of a group or a join
is a scope of its own, which has grown from where it started. -/
theorem Reached.grows (h : s.Reached t) : s.Grows t := by
  induction h with
  | refl s => exact .refl s
  | restrict _ _ ih => exact ih.trans (.add _ trivial)
  | group _ _ ih ihBody =>
      obtain ⟨-, added, hadded, hgroup⟩ := ihBody
      refine ih.trans (.add _ ?_)
      rw [hgroup]
      exact hadded
  | having _ _ ih ihBody =>
      obtain ⟨-, added, hadded, hgroup⟩ := ihBody
      refine ih.trans (.add _ ?_)
      rw [hgroup]
      exact ⟨rfl, rfl, hadded⟩
  | clause _ _ _ ih => exact ih.trans (.of_sameTree ⟨_, rfl⟩)

end Scope

/-! ## Calls -/

/-- A root scope after any number of calls, some of which may have
failed. -/
inductive Scope.Built : Scope → Prop
  | root : Scope.Built .root
  | call {s : Scope} (args : List Value) (step : Step) (h : s.Built) :
      Scope.Built (step.run args s).1

theorem Scope.Built.reached {s : Scope} (h : s.Built) : Scope.root.Reached s := by
  induction h with
  | root => exact .refl _
  | call args step _ ih => exact ih.trans (Step.run_reached args step _)

/-- What calls build is a proper conjunction. -/
theorem Scope.Built.proper {s : Scope} (h : s.Built) :
    s.group.connective = .all ∧ s.group.negated = false ∧ Node.AllProper s.group.children := by
  obtain ⟨-, added, hadded, hgroup⟩ := h.reached.grows
  rw [hgroup]
  exact ⟨rfl, rfl, hadded⟩

end Criteria
