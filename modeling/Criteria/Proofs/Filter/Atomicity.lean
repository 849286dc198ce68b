import Criteria.Proofs.Filter.Built

/-!
# Calls are atomic

A call does all that it says, or it fails and leaves no trace. The main
statement, `Scope.calls_atomic`, holds of every scope, at the root or
nested: of single calls, whose bodies may be any functions of a scope, and
of any number of calls in a row, which may succeed or fail, with bodies
that may stop half way or drop the errors of their own calls.

Structural calls change a scope in place, so a call that failed after a
first change would leave that behind. None does: whatever can fail is
looked at before anything is changed (`ClauseCall.on_root`).

No clause gets lost when a nested scope closes, because a nested scope
never has any: it refuses structural calls, so it keeps the clauses that it
started with, which are none (`Scope.Reached.nested_clauses`).
-/

namespace Criteria

open Sql (Connective JoinKind)

/-! ## What stays -/

theorem ScopeCall.Makes.children {call : ScopeCall} {s t : Scope} (h : call.Makes s t) :
    s.group.children <+: t.group.children := by
  cases h with
  | restrict hgains => exact hgains.children ▸ List.prefix_append ..
  | group _ hgains => exact hgains.children ▸ List.prefix_append ..
  | having _ hgains => exact hgains.children ▸ List.prefix_append ..
  | clause _ _ hgroup _ => exact hgroup ▸ List.prefix_rfl

namespace Scope

theorem Reached.nested_clauses {s t : Scope} (h : s.Reached t) (hs : s.kind ≠ .root) :
    t.clauses = s.clauses := by
  induction h with
  | refl => rfl
  | restrict _ _ ih => exact ih hs
  | group _ _ ih _ => exact ih hs
  | having _ _ ih _ => exact ih hs
  | clause h hroot _ _ =>
      have hkind := h.grows.kind
      rw [hroot] at hkind
      exact absurd hkind.symm hs

/-- A nested scope that calls have filled is what it started as, with
children. -/
theorem Reached.nested {s t : Scope} (h : s.Reached t) (hs : s.kind ≠ .root) :
    ∃ children, t = { s with group := { s.group with children } } := by
  obtain ⟨hkind, added, -, hgroup⟩ := h.grows
  have hclauses := h.nested_clauses hs
  obtain ⟨kind, group, clauses⟩ := t
  simp only at hkind hgroup hclauses
  subst hkind hclauses hgroup
  exact ⟨_, rfl⟩

/-- What a body of calls leaves of a nested scope, whether it succeeds or
not. -/
theorem filled {body : Body} (hbody : body.Calls) {s t : Scope} {result : Except Failure Unit}
    (h : body s = (t, result)) (hs : s.kind ≠ .root) :
    ∃ children, t = { s with group := { s.group with children } } := by
  have hreached := (hbody s).reached
  rw [h] at hreached
  exact hreached.nested hs

end Scope

/-! ## Atomic calls -/

namespace Scope

/-- How a scope takes calls. -/
structure Atomic (s : Scope) : Prop where
  /-- A call that fails leaves the scope as it was. -/
  failed {call : ScopeCall} {t : Scope} {f : Failure} (h : call.run s = (t, .error f)) : t = s
  /-- One that succeeds adds one child, which holds what the body has
  collected, or changes the clauses alone. -/
  made {call : ScopeCall} {t : Scope} (h : call.run s = (t, .ok ())) :
    call.Makes s t ∧ s.group.children <+: t.group.children
  /-- A nested scope refuses every structural call. -/
  refused (call : ClauseCall) (h : s.kind ≠ .root) : (ScopeCall.clause call).run s
    = (s, .error (.of (.noSuchOperation call.operation s.kind.describe)))
  /-- Of calls in a row there is left what those that succeed have made, in
  the scope and in the scopes of all bodies. -/
  traceless {t : Scope} (h : s.Tried t) : s.Reached t
  /-- The steps of a program are calls. -/
  program (args : List Value) (steps : List Step) : s.Tried (Step.runAll args steps s).1
  /-- The scope of a group that closes has the kind and the connective of
  the group, its children, and nothing else. -/
  group {connective : Connective} {negated : Bool} {body : Body} {t : Scope} (hbody : body.Calls)
    (h : (ScopeCall.group connective negated body).run s = (t, .ok ())) :
    ∃ children, body { kind := .group, group := { connective, negated, children := [] } }
        = ({ kind := .group, group := { connective, negated, children }, clauses := {} }, .ok ())
      ∧ s.Gains t (.group { connective, negated, children })
  /-- So has that of a join, which is a conjunction. -/
  having {association : String} {kind : JoinKind} {body : Body} {t : Scope} (hbody : body.Calls)
    (h : (ScopeCall.having association kind body).run s = (t, .ok ())) :
    ∃ children, body { kind := .join, group := { connective := .all, children := [] } }
        = ({ kind := .join, group := { connective := .all, children }, clauses := {} }, .ok ())
      ∧ s.Gains t (.join association kind { connective := .all, children })

theorem calls_atomic (s : Scope) : s.Atomic where
  failed := ScopeCall.run_error
  made h := ⟨ScopeCall.run_ok h, (ScopeCall.run_ok h).children⟩
  refused call h := ClauseCall.on_nested h call
  traceless := Tried.reached
  program args steps := Step.runAll_calls args steps s
  group {connective negated body t} hcalls h := by
    cases ScopeCall.run_ok h with
    | group hbody hgains =>
        obtain ⟨children, rfl⟩ := filled hcalls hbody nofun
        exact ⟨children, hbody, hgains⟩
  having {association kind body t} hcalls h := by
    cases ScopeCall.run_ok h with
    | having hbody hgains =>
        obtain ⟨children, rfl⟩ := filled hcalls hbody nofun
        exact ⟨children, hbody, hgains⟩

/-- A scope inside a join that has been told something already. -/
def drafted : Scope := inJoin.restrict { column := "format", operator := some .isNull }

end Scope

/-- A body that ends with an order, which only the root can take. -/
def Step.ordering : List Step :=
  [.restrict "width" false [.compare .less (.value (.int 9))],
    .having "owner" .left [.restrict "name" false [.isNull]],
    .orderBy (.name "id") (.settled .asc)]

/-- A body that drops the error of a group, in which a limit is refused. -/
def Step.forgiving : List Step :=
  [.restrict "width" true [.isNull],
    .attempt [.group .any false [.restrict "height" false [.isNull], .limit (.literal 1) none]]]

/-- The first group fails at its order and is not there; of the second
there is what came before the limit. -/
theorem Scope.calls_atomic_drafted :
    (ScopeCall.group .any true (Step.runAll [] Step.ordering)).run .drafted
        = (.drafted, .error (.of (.noSuchOperation "order" "an all_of/any_of block")))
      ∧ (ScopeCall.clause (.offset 3)).run .drafted
        = (.drafted, .error (.of (.noSuchOperation "offset" "a having block")))
      ∧ ∃ t, (ScopeCall.group .all false (Step.runAll [] Step.forgiving)).run .drafted
          = (t, .ok ())
        ∧ Scope.drafted.Gains t (.group { connective := .all, children := [.restriction
            { column := "width", negated := true, operator := some .isNull }] }) := by
  have hdrafted := Scope.calls_atomic .drafted
  obtain ⟨t, hfails⟩ : ∃ t, (ScopeCall.group .any true (Step.runAll [] Step.ordering)).run .drafted
      = (t, .error (.of (.noSuchOperation "order" "an all_of/any_of block"))) := ⟨_, rfl⟩
  obtain ⟨u, hsucceeds⟩ : ∃ t, (ScopeCall.group .all false
      (Step.runAll [] Step.forgiving)).run .drafted = (t, .ok ()) := ⟨_, rfl⟩
  have hsame : t = .drafted := hdrafted.failed hfails
  obtain ⟨children, hbody, hgains⟩ := hdrafted.group (Step.runAll_calls [] _) hsucceeds
  refine ⟨hsame ▸ hfails, hdrafted.refused (.offset 3) (by decide), u, hsucceeds, ?_⟩
  cases hbody
  exact hgains

end Criteria
