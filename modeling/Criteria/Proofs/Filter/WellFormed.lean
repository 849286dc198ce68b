import Criteria.Proofs.Filter.Atomicity
import Criteria.Proofs.Filter.Extension
import Criteria.Proofs.Filter.Sound

/-!
# Well-formed scopes

What the types of scopes and restrictions allow for and no call brings
about: a join whose body is a disjunction or is negated, clauses in a
nested scope, an operator without the operand that it needs, an order by
a blank column. The main statement is `Scope.Live.wellFormed`, about every
scope that there is while a filter is written, be it the root or the
scope of a body that has come half way.

Restrictions need no induction over trees of their own: what is true of
each that calls can make is true all over the tree
(`Scope.Reached.everySite`).
-/

namespace Criteria

open Sql (Connective)

/-! ## Restrictions -/

/-- There is an operand exactly where the operator has a use for one. -/
def Restriction.Complete (r : Restriction) : Prop :=
  r.operand.isSome ↔ ∃ op, r.operator = some op ∧ op ≠ .isNull

namespace Restriction

variable {r : Restriction}

/-- An operator that is called replaces the operand with the one before. -/
theorem complete_of_operand {op : Operator} {v : Value} (hop : r.operator = some op)
    (hnull : op ≠ .isNull) (hv : r.operand = some v) : r.Complete := by
  rw [Complete, hv]
  exact iff_of_true rfl ⟨op, hop, hnull⟩

theorem Called.complete (h : r.Called) : r.Complete := by
  cases h with
  | bare column negated => exact iff_of_false nofun nofun
  | isNull _ =>
      refine iff_of_false nofun ?_
      rintro ⟨op, hop, hnull⟩
      cases hop
      exact hnull rfl
  | compare c v _ => exact complete_of_operand rfl nofun rfl
  | inList v _ => exact complete_of_operand rfl nofun rfl
  | like v _ => exact complete_of_operand rfl nofun rfl
  | between v _ => exact complete_of_operand rfl nofun rfl

end Restriction

/-! ## Clauses -/

/-- Whatever rows are ordered or grouped by has a name. -/
structure Clauses.Named (c : Clauses) : Prop where
  order : ∀ entry ∈ c.order, entry.column.isBlank = false
  groupBy : ∀ column ∈ c.groupBy, column.isBlank = false

theorem ClauseCall.change_named {call : ClauseCall} {c c' : Clauses} (hc : c.Named)
    (h : call.change c = .ok c') : c'.Named := by
  cases call with
  | limit first second => cases second <;> cases h <;> exact ⟨hc.order, hc.groupBy⟩
  | offset n =>
      cases h
      exact ⟨hc.order, hc.groupBy⟩
  | orderBy column direction =>
      obtain ⟨column, hcolumn, h⟩ := except_bind_ok.mp h
      obtain ⟨order, -, h⟩ := except_bind_ok.mp h
      cases h
      refine ⟨fun entry hentry => ?_, hc.groupBy⟩
      rcases List.mem_append.mp hentry with hentry | hentry
      · exact hc.order entry hentry
      · obtain rfl := List.mem_singleton.mp hentry
        exact (Scope.named_ok hcolumn).2
  | groupBy column =>
      obtain ⟨column, hcolumn, h⟩ := except_bind_ok.mp h
      cases h
      refine ⟨hc.order, fun grouped hgrouped => ?_⟩
      rcases List.mem_append.mp hgrouped with hgrouped | hgrouped
      · exact hc.groupBy grouped hgrouped
      · obtain rfl := List.mem_singleton.mp hgrouped
        exact (Scope.named_ok hcolumn).2
  | select columns =>
      cases h
      exact ⟨hc.order, hc.groupBy⟩
  | distinct columns =>
      cases h
      split <;> exact ⟨hc.order, hc.groupBy⟩

theorem Scope.Reached.named {s t : Scope} (h : s.Reached t) (hs : s.clauses.Named) :
    t.clauses.Named := by
  induction h with
  | refl => exact hs
  | restrict _ _ ih => exact ih hs
  | group _ _ ih _ => exact ih hs
  | having _ _ ih _ => exact ih hs
  | clause _ _ hchange ih => exact ClauseCall.change_named (ih hs) hchange

/-! ## Scopes -/

/-- What a filter, or the body of a group or a join, starts with. -/
inductive Scope.Fresh : Scope → Prop
  | root : Fresh .root
  | inGroup (connective : Connective) (negated : Bool) : Fresh (.inGroup connective negated)
  | inJoin : Fresh .inJoin

/-- A scope at any time while it is filled, after calls some of which may
have failed. -/
def Scope.Live (t : Scope) : Prop := ∃ s : Scope, s.Fresh ∧ s.Extended t

structure Scope.WellFormed (s : Scope) : Prop where
  /-- The root and the body of a join are conjunctions, not negated. -/
  conjunction : s.kind ≠ .group → s.group.connective = .all ∧ s.group.negated = false
  /-- So is the body of every join in the tree. -/
  joins : Node.AllProper s.group.children
  clauses : s.kind ≠ .root → s.clauses = {}
  restrictions : ∀ x ∈ s.restrictions, x.2.Complete
  named : s.clauses.Named

namespace Scope

variable {s t : Scope}

theorem Fresh.wellFormed (h : s.Fresh) : s.WellFormed := by
  cases h with
  | root => exact ⟨fun _ => ⟨rfl, rfl⟩, trivial, fun _ => rfl, nofun, nofun, nofun⟩
  | inGroup connective negated =>
      exact ⟨fun h => absurd rfl h, trivial, fun _ => rfl, nofun, nofun, nofun⟩
  | inJoin => exact ⟨fun _ => ⟨rfl, rfl⟩, trivial, fun _ => rfl, nofun, nofun, nofun⟩

theorem Fresh.children (h : s.Fresh) : s.group.children = [] := by
  cases h <;> rfl

theorem Fresh.clauses (h : s.Fresh) : s.clauses = {} := by
  cases h <;> rfl

theorem Reached.complete (h : s.Reached t) (hs : s.group.children = []) :
    ∀ x ∈ t.restrictions, x.2.Complete := by
  have hsites : ∀ path, ∀ site ∈ Node.allSites path t.group.children,
      ∀ x, site.restriction? = some x → x.2.Complete := by
    refine h.everySite (P := fun site => ∀ x, site.restriction? = some x → x.2.Complete)
      (fun path r hr x hx => ?_) (fun v x hx => ?_) (fun path site hsite => ?_)
    · cases hx
      exact hr.complete
    · cases hx
    · rw [hs] at hsite
      cases hsite
  intro x hx
  obtain ⟨site, hsite, hsome⟩ := List.mem_filterMap.mp hx
  exact hsites [] site hsite x hsome

theorem Live.equipped (h : t.Live) : t.Equipped := by
  obtain ⟨s, hs, hextended⟩ := h
  refine hextended.reached.equipped fun path site hsite => ?_
  rw [hs.children] at hsite
  cases hsite

theorem Live.wellFormed (h : t.Live) : t.WellFormed := by
  obtain ⟨s, hs, hextended⟩ := h
  have hreached := hextended.reached
  obtain ⟨hkind, added, hadded, hgroup⟩ := hreached.grows
  have hfresh := hs.wellFormed
  constructor
  case conjunction =>
    rw [hkind, hgroup]
    exact hfresh.conjunction
  case joins =>
    rw [hgroup, hs.children]
    exact hadded
  case clauses =>
    intro hnested
    rw [hkind] at hnested
    rw [hreached.nested_clauses hnested]
    exact hs.clauses
  case restrictions => exact hreached.complete hs.children
  case named => exact hreached.named hfresh.named

end Scope

end Criteria
