import Criteria.Proofs.Filter.WellFormed
import Criteria.Proofs.Plan.Compositional
import Criteria.Proofs.Plan.Faults

/-!
# Refusals

What a compilation can fail with, whatever the schema is and whatever the
scope. A lookup in the schema meets a number that was never issued, or
finds no association of a name; a restriction has no test. There is
nothing else (`Schema.compile_refusal`).

For scopes that calls have built this leaves out one of the problems that
restrictions can have: no operator misses its operand. And what is planned
tests every column by the operator that was called last. The main
statement, `compile_live`, has both beside the form of the scope that they
follow from.
-/

namespace Criteria

open Sql (Condition Connective JoinKind)

/-! ## Broken promises -/

theorem Place.column_breaks (s : Schema) (here : Place) (column : String) :
    Breaks (here.column s column) := by
  unfold Place.column
  split
  · exact .pure _
  · refine (s.hasColumn_breaks here.model column).bind fun known => ?_
    split <;> exact .pure _

theorem Place.newEntry_breaks (s : Schema) (names : Names) (owner : Place) (a : Association)
    (kind : JoinKind) : Breaks (newEntry s names owner a kind) := by
  refine (s.table_breaks a.target).bind fun table => ?_
  refine (s.endpoint_breaks owner.model).bind fun ownerEnd => ?_
  refine (s.endpoint_breaks a.target).bind fun targetEnd => ?_
  cases a.joinTable? <;> exact .pure _

/-! ## Refusals of a planner -/

/-- What planning over the sites can fail with. -/
inductive Refusal (sites : List Site) : Failure → Prop
  | broken (fault : Fault) : Refusal sites (.broken fault)
  | association (model name : String) : Refusal sites
      ((Failure.of (.unknownAssociation model name)).map (·.withOperation "having"))
  | restriction {path : List String} {r : Restriction} {bound : Nat}
      {problem : RestrictionProblem} (hsite : .restriction path r ∈ sites)
      (hform : r.form bound = .error problem) (model : String) : Refusal sites
      ((Failure.of (.malformedRestriction r.column problem)).map (·.withModel model))

namespace Planner

variable {sites : List Site} {α β : Type}

/-- The planner fails only so. -/
def Refuses (sites : List Site) (x : Planner α) : Prop :=
  ∀ ⦃d f⦄, x.run d = .error f → Refusal sites f

namespace Refuses

theorem pure (a : α) : Refuses sites (Pure.pure a : Planner α) := by
  intro d f h
  cases h

theorem lift {x : Except Failure α} (hx : Breaks x) :
    Refuses sites (liftM x : Planner α) := by
  intro d f h
  cases x with
  | ok a => cases h
  | error e =>
      cases h
      obtain ⟨fault, rfl⟩ := hx rfl
      exact .broken fault

theorem bind {x : Planner α} {f : α → Planner β} (hx : Refuses sites x)
    (hf : ∀ a, Refuses sites (f a)) : Refuses sites (x >>= f) := by
  intro d e h
  rw [StateT.run_bind] at h
  rcases except_bind_error.mp h with h | ⟨⟨a, d₁⟩, -, h⟩
  · exact hx h
  · exact hf a h

end Refuses

end Planner

open Planner (Refuses)

section

variable {s : Schema} {sites : List Site}

theorem Restriction.plan_refuses {path : List String} {r : Restriction} (here : Place)
    (hr : .restriction path r ∈ sites) : Refuses sites (r.plan s here) := by
  intro d f h
  rw [Restriction.plan_run] at h
  cases hform : r.form d.bound with
  | ok result =>
      rw [hform] at h
      cases h
  | error problem =>
      rw [hform] at h
      rcases except_bind_error.mp h with h | ⟨model, -, h⟩
      · obtain ⟨fault, rfl⟩ := s.name_breaks here.model h
        exact .broken fault
      · cases h
        exact .restriction hr hform model

theorem Place.enter_refuses (owner : Place) (name : String) (kind : JoinKind) :
    Refuses sites (owner.enter s name kind) := by
  intro d f h
  rw [Place.enter_run] at h
  rcases except_bind_error.mp h with h | ⟨a, -, h⟩
  · cases hfound : s.association owner.model name with
    | ok a =>
        rw [hfound] at h
        cases h
    | error e =>
        rw [hfound] at h
        cases h
        rcases s.association_fails owner.model hfound with ⟨fault, rfl⟩ | ⟨model, rfl⟩
        · exact .broken fault
        · exact .association model name
  · split at h
    · cases h
    · cases hentry : newEntry s d.names owner a kind with
      | ok result =>
          rw [hentry] at h
          cases h
      | error e =>
          rw [hentry] at h
          cases h
          obtain ⟨fault, rfl⟩ := Place.newEntry_breaks s d.names owner a kind hentry
          exact .broken fault

mutual

theorem Node.plan_refuses (outer : Connective) (path : List String) (here : Place) :
    ∀ {node : Node}, (∀ site ∈ node.sites path, site ∈ sites) →
      Refuses sites (node.plan s outer here)
  | .restriction r, hsites =>
      (Restriction.plan_refuses here (hsites _ (List.mem_singleton.mpr rfl))).bind
        fun _ => .pure _
  | .group ⟨connective, negated, children⟩, hsites => by
      refine (Node.planAll_refuses connective path here hsites).bind fun parts => ?_
      split <;> exact .pure _
  | .join association kind ⟨connective, negated, children⟩, hsites => by
      refine (Place.enter_refuses here association kind).bind fun target => ?_
      have hbody : ∀ site ∈ Node.allSites (path ++ [association]) children, site ∈ sites :=
        fun site hsite => hsites site (List.mem_cons_of_mem _ hsite)
      refine (Node.planAll_refuses connective _ target hbody).bind fun parts => ?_
      split <;> exact .pure _

theorem Node.planAll_refuses (outer : Connective) (path : List String) (here : Place) :
    ∀ {nodes : List Node}, (∀ site ∈ Node.allSites path nodes, site ∈ sites) →
      Refuses sites (Node.planAll s outer here nodes)
  | [], _ => .pure _
  | child :: rest, hsites =>
      have hfirst : ∀ site ∈ child.sites path, site ∈ sites :=
        fun site hsite => hsites site (List.mem_append_left _ hsite)
      have hrest : ∀ site ∈ Node.allSites path rest, site ∈ sites :=
        fun site hsite => hsites site (List.mem_append_right _ hsite)
      (Node.plan_refuses outer path here hfirst).bind fun _ =>
        (Node.planAll_refuses outer path here hrest).bind fun _ => .pure _

end

theorem refuses_compositional : Planner.Compositional s (Refuses sites) where
  pure := .pure
  bind := .bind
  column here column := .lift (here.column_breaks s column)
  enter := Place.enter_refuses

theorem Scope.plan_refuses (subject : Place) (scope : Scope) :
    Refuses scope.treeSites (scope.plan s subject) :=
  (Node.planAll_refuses _ [] subject fun _ hsite => hsite).bind fun _ =>
    (refuses_compositional.order subject _).bind fun _ =>
      (refuses_compositional.columns subject _).bind fun _ => .pure _

end

/-- What a compilation can fail with. -/
theorem Schema.compile_refusal {s : Schema} {config : Config} {id : ModelId} {scope : Scope}
    {base : Option BaseCondition} {f : Failure} (h : s.compile config id scope base = .error f) :
    Refusal scope.treeSites f := by
  cases htable : s.table id with
  | error e =>
      rw [Schema.compile, Schema.plan, htable] at h
      cases h
      obtain ⟨fault, rfl⟩ := s.table_breaks id htable
      exact .broken fault
  | ok table =>
      rw [Schema.compile_run htable] at h
      cases hrun : (scope.plan s ⟨id, table⟩).run (.start table base) with
      | ok result =>
          rw [hrun] at h
          cases h
      | error e =>
          rw [hrun] at h
          cases h
          exact scope.plan_refuses ⟨id, table⟩ hrun

/-! ## Operators -/

/-- What a test asks of its column. -/
def Sql.Condition.operator? : Condition → Option Operator
  | .test t => some t.form.operator
  | _ => none

/-- What is walked over is tested by the operator that it has. -/
theorem Walk.tests_operators {s : Schema} {subject : Place} {d d' : Draft} {sites : List Site}
    (h : Walk s subject d sites d') (name : List String → String) :
    ((Site.tests name d.bound sites).filterMap Condition.operator?).map some
      = (sites.filterMap Site.restriction?).map (·.2.operator) := by
  induction h with
  | nil => rfl
  | @restriction d _ path _ r form values _ _ hform _ ih =>
      obtain ⟨hoperator, hvalues, -⟩ := Restriction.form_ok hform
      rw [Draft.bound_bind, hvalues] at ih
      rw [Site.tests, Restriction.test?, hform, List.filterMap_append, List.map_append, ih]
      exact congrArg (· :: _) hoperator.symm
  | @visit d d₁ _ v _ _ _ hreach henter _ ih =>
      rw [Place.enter_bound henter] at ih
      rw [Site.tests, ih]
      rfl

/-- The tests of a plan are those of its restrictions, one for each. -/
theorem Schema.plan_operators {s : Schema} {id : ModelId} {scope : Scope}
    {base : Option BaseCondition} {plan : Plan} (h : s.plan id scope base = .ok plan) :
    ((Condition.allLeaves plan.condition.toList).filterMap Condition.operator?).map some
      = scope.restrictions.map (·.2.operator) := by
  obtain ⟨table, d, -, hwalk, -, -, hcondition⟩ := Schema.plan_parts h
  obtain ⟨_, htree, -⟩ := Walk.of_append hwalk
  have hbase : (base.map (·.part)).toList.filterMap Condition.operator? = [] := by
    cases base <;> rfl
  rw [hcondition _ (Draft.namedBy_nameAt s ⟨id, table⟩ d), Condition.allLeaves_combine,
    Scope.parts_leaves, List.filterMap_append, hbase, List.nil_append]
  exact htree.tests_operators _

/-! ## Scopes that calls have built -/

/-- What a refusal is about. -/
def Failure.cause? : Failure → Option Cause
  | .refused e => some e.cause
  | .broken _ => none

/-- No operator misses its operand where all restrictions are equipped. -/
theorem Refusal.operand {sites : List Site} {f : Failure} (h : Refusal sites f)
    (hsites : ∀ site ∈ sites, site.Equipped) (column operator : String) :
    f.cause? ≠ some (.malformedRestriction column (.noOperand operator)) := by
  cases h with
  | broken fault => exact nofun
  | association model name => exact nofun
  | restriction hsite hform model =>
      intro hcause
      cases hcause
      cases Restriction.form_fault (hsites _ hsite) hform

/-- A scope is well formed at any time, so a compilation never asks for an
operand that is not there, and tests each column by the operator that its
restriction has. -/
theorem Schema.compile_live {t : Scope} (h : t.Live) :
    t.WellFormed
      ∧ ∀ (s : Schema) (id : ModelId) (base : Option BaseCondition),
        (∀ config f, s.compile config id t base = .error f → ∀ column operator,
            f.cause? ≠ some (.malformedRestriction column (.noOperand operator)))
          ∧ ∀ plan, s.plan id t base = .ok plan →
            ((Condition.allLeaves plan.condition.toList).filterMap Condition.operator?).map some
              = t.restrictions.map (·.2.operator) := by
  refine ⟨h.wellFormed, fun s id base => ⟨fun config f hf => ?_, fun plan => s.plan_operators⟩⟩
  exact (s.compile_refusal hf).operand (h.equipped [])

/-- Posts by Ann, after second thoughts about her name and an order by
nothing, which was refused. -/
def Scope.reconsidered : Scope :=
  (Step.run [] (.orderBy (.path ["author"] " ") (.settled .asc))
    (Step.run [] (.having "author" .left [.restrict "name" false
      [.like (.value (.string "A%")), .isNull, .compare .equal (.value (.string "Ann"))]])
      .root).1).1

/-- The join is there and the order is not; the column is tested by the
last of the three operators. -/
theorem Schema.compile_live_reconsidered :
    Scope.reconsidered.WellFormed ∧ Scope.reconsidered.clauses = {}
      ∧ ∃ plan, Schema.forum.plan ⟨0⟩ .reconsidered none = .ok plan
        ∧ ((Condition.allLeaves plan.condition.toList).filterMap Condition.operator?).map some
          = [some (.compare .equal)] := by
  have hlive : Scope.reconsidered.Live := ⟨.root, .root, .call [] _ (.call [] _ .refl)⟩
  obtain ⟨hformed, hcompile⟩ := Schema.compile_live hlive
  have hplan : ∃ plan, Schema.forum.plan ⟨0⟩ .reconsidered none = .ok plan := ⟨_, rfl⟩
  obtain ⟨plan, hplan⟩ := hplan
  obtain ⟨-, hoperators⟩ := hcompile .forum ⟨0⟩ none
  exact ⟨hformed, rfl, plan, hplan, hoperators plan hplan⟩

end Criteria
