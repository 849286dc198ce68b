import Criteria.Proofs.Plan.Walk
import Criteria.Proofs.Sql.Leaves

/-!
# The parts of a condition, as a function of the tree

What the planner makes of a tree, without the planner: `Node.allParts`
goes by a naming of the paths and by the number of values bound, and
keeps no draft. A plan that succeeds has exactly these parts
(`Node.planAll_parts`), so what they come to is a matter of plain
recursion over the tree.

The leaves of the parts are the tests of the restrictions in the order of
the document, numbered on from one to the next (`Node.allParts_leaves`);
no grouping changes them.
-/

namespace Criteria

open Sql (Condition Connective JoinKind)

/-! ## Parts -/

/-- The naming gives every place that is reached the label it goes by. -/
def Draft.NamedBy (s : Schema) (subject : Place) (d : Draft) (name : List String → String) :
    Prop :=
  ∀ ⦃path here⦄, subject.reach s d path = some here → name path = here.label

/-- The test of a restriction when `bound` values are bound, if it makes
sense. -/
def Restriction.test? (label : String) (bound : Nat) (r : Restriction) : Option Condition :=
  match r.form bound with
  | .ok (form, _) => some (.test { label, column := r.column, negated := r.negated, form })
  | .error _ => none

mutual

def Node.parts (name : List String → String) (path : List String) (bound : Nat)
    (outer : Connective) : Node → List Condition
  | .restriction r => (r.test? (name path) bound).toList
  | .group ⟨connective, negated, children⟩ =>
    let parts := Node.allParts name path bound connective children
    if connective = outer && !negated then parts else closeGroup connective negated parts
  | .join association _ ⟨connective, negated, children⟩ =>
    let parts := Node.allParts name (path ++ [association]) bound connective children
    if outer = .all then parts else closeGroup connective negated parts
termination_by structural n => n

def Node.allParts (name : List String → String) (path : List String) (bound : Nat)
    (outer : Connective) : List Node → List Condition
  | [] => []
  | child :: rest =>
    child.parts name path bound outer
      ++ Node.allParts name path
          (bound + ((child.sites path).flatMap Site.operands).length) outer rest
termination_by structural l => l

end

theorem Draft.NamedBy.mono {s : Schema} {subject : Place} {d d' : Draft}
    {name : List String → String} (h : d'.NamedBy s subject name)
    (hd : d.joins <+: d'.joins) : d.NamedBy s subject name :=
  fun _ _ hreach => h (Place.reach_mono hd hreach)

section

variable {s : Schema} {subject : Place} {name : List String → String}

mutual

theorem Node.plan_parts {outer : Connective} {path : List String} {here : Place} {d d' : Draft}
    {parts : List Condition} : ∀ {node : Node}, subject.reach s d path = some here →
      (node.plan s outer here).run d = .ok (parts, d') → d'.NamedBy s subject name →
      parts = node.parts name path d.bound outer
  | .restriction r, hreach, h, hname => by
      obtain ⟨part, _, hr, h⟩ := Planner.bind_ok.mp h
      obtain ⟨rfl, rfl⟩ := Planner.pure_ok.mp h
      obtain ⟨form, values, hform, rfl, rfl⟩ := Restriction.plan_ok hr
      have hlabel := hname (Place.reach_mono (d := d) (List.prefix_refl d.joins) hreach)
      simp [Node.parts, Restriction.test?, hform, hlabel]
  | .group ⟨connective, negated, children⟩, hreach, h, hname => by
      obtain ⟨inner, _, hchildren, h⟩ := Planner.bind_ok.mp h
      rw [Node.parts]
      split at h
      · rename_i hsame
        obtain ⟨rfl, rfl⟩ := Planner.pure_ok.mp h
        rw [if_pos hsame]
        exact Node.planAll_parts hreach hchildren hname
      · rename_i hsame
        obtain ⟨rfl, rfl⟩ := Planner.pure_ok.mp h
        rw [if_neg hsame, Node.planAll_parts hreach hchildren hname]
  | .join association kind ⟨connective, negated, children⟩, hreach, h, hname => by
      obtain ⟨target, d₁, henter, h⟩ := Planner.bind_ok.mp h
      obtain ⟨inner, _, hchildren, h⟩ := Planner.bind_ok.mp h
      have htarget := Place.enter_reach hreach henter
      rw [Node.parts, ← Place.enter_bound henter]
      split at h
      · rename_i hall
        obtain ⟨rfl, rfl⟩ := Planner.pure_ok.mp h
        rw [if_pos hall]
        exact Node.planAll_parts htarget hchildren hname
      · rename_i hall
        obtain ⟨rfl, rfl⟩ := Planner.pure_ok.mp h
        rw [if_neg hall, Node.planAll_parts htarget hchildren hname]

theorem Node.planAll_parts {outer : Connective} {path : List String} {here : Place}
    {d d' : Draft} {parts : List Condition} : ∀ {nodes : List Node},
      subject.reach s d path = some here →
      (Node.planAll s outer here nodes).run d = .ok (parts, d') → d'.NamedBy s subject name →
      parts = Node.allParts name path d.bound outer nodes
  | [], _, h, _ => by
      obtain ⟨rfl, rfl⟩ := Planner.pure_ok.mp h
      rfl
  | child :: rest, hreach, h, hname => by
      obtain ⟨first, d₁, hchild, h⟩ := Planner.bind_ok.mp h
      obtain ⟨others, _, hrest, h⟩ := Planner.bind_ok.mp h
      obtain ⟨rfl, rfl⟩ := Planner.pure_ok.mp h
      have hfirst := Node.plan_walk hreach hchild
      have hothers := Node.planAll_walk (hfirst.reach hreach) hrest
      rw [Node.allParts, ← hfirst.bound,
        ← Node.plan_parts hreach hchild (hname.mono hothers.joins),
        ← Node.planAll_parts (hfirst.reach hreach) hrest hname]

end

end

/-- The parts of the condition of a filter, the base first. -/
def Scope.parts (name : List String → String) (base : Option BaseCondition) (scope : Scope) :
    List Condition :=
  (base.map (·.part)).toList
    ++ Node.allParts name [] ((base.map (·.values)).getD []).length scope.group.connective
        scope.group.children

/-- The condition of a plan is made of these parts, by any naming of the
paths that the finished draft bears out. -/
theorem Schema.plan_parts {s : Schema} {id : ModelId} {scope : Scope}
    {base : Option BaseCondition} {plan : Plan} (h : s.plan id scope base = .ok plan) :
    ∃ table d, s.table id = .ok table
      ∧ Walk s ⟨id, table⟩ (.start table base) scope.sites d
      ∧ plan.values = d.values ∧ plan.joins = d.joins
      ∧ ∀ name, d.NamedBy s ⟨id, table⟩ name →
          plan.condition = Condition.combine .all (scope.parts name base) := by
  obtain ⟨table, parts, d₁, d, htable, hparts, hcolumns, hwalk, hcondition, hvalues, hjoins⟩ :=
    Schema.plan_ok h
  refine ⟨table, d, htable, hwalk, hvalues, hjoins, fun name hname => ?_⟩
  have hname₁ : d₁.NamedBy s ⟨id, table⟩ name := hname.mono hcolumns.joins
  have heq : parts = Node.allParts name [] (Draft.start table base).bound scope.group.connective
      scope.group.children := Node.planAll_parts rfl hparts hname₁
  rw [hcondition, heq]
  rfl

/-! ## Leaves -/

open Sql.Condition (allLeaves allLeaves_append allLeaves_combine leaves_negateIf)

theorem allLeaves_closeGroup (connective : Connective) (negated : Bool) (parts : List Condition) :
    allLeaves (closeGroup connective negated parts) = allLeaves parts := by
  rw [← allLeaves_combine connective parts, closeGroup]
  cases Condition.combine connective parts with
  | none => rfl
  | some c => simp [allLeaves, leaves_negateIf]

/-- The tests of the restrictions among the sites, numbered on from those
that are bound already. -/
def Site.tests (name : List String → String) (bound : Nat) : List Site → List Condition
  | [] => []
  | .restriction path r :: rest =>
    (r.test? (name path) bound).toList ++ Site.tests name (bound + r.operands.length) rest
  | .visit _ :: rest => Site.tests name bound rest

theorem Site.tests_append (name : List String → String) (bound : Nat) (xs ys : List Site) :
    Site.tests name bound (xs ++ ys) = Site.tests name bound xs
      ++ Site.tests name (bound + (xs.flatMap Site.operands).length) ys := by
  induction xs generalizing bound with
  | nil => rfl
  | cons site rest ih =>
      cases site with
      | restriction path r =>
          simp [Site.tests, Site.operands, ih, Nat.add_assoc]
      | visit v => simp [Site.tests, Site.operands, ih]

theorem Site.mem_tests {name : List String → String} {bound : Nat} {sites : List Site}
    {c : Condition} (h : c ∈ Site.tests name bound sites) :
    ∃ path r t, Site.restriction path r ∈ sites ∧ c = .test t ∧ t.label = name path
      ∧ t.column = r.column := by
  induction sites generalizing bound with
  | nil => cases h
  | cons site rest ih =>
      cases site with
      | restriction path r =>
          rw [Site.tests, List.mem_append, Option.mem_toList] at h
          rcases h with h | h
          · unfold Restriction.test? at h
            split at h
            · cases h
              exact ⟨path, r, _, List.mem_cons_self .., rfl, rfl, rfl⟩
            · cases h
          · obtain ⟨path', r', t, hmem, ht⟩ := ih h
            exact ⟨path', r', t, List.mem_cons_of_mem _ hmem, ht⟩
      | visit v =>
          obtain ⟨path', r', t, hmem, ht⟩ := ih h
          exact ⟨path', r', t, List.mem_cons_of_mem _ hmem, ht⟩

theorem Restriction.leaves_test? (label : String) (bound : Nat) (r : Restriction) :
    allLeaves (r.test? label bound).toList = (r.test? label bound).toList := by
  unfold Restriction.test?
  split <;> rfl

mutual

theorem Node.parts_leaves (name : List String → String) (path : List String) (bound : Nat)
    (outer : Connective) : ∀ node : Node,
      allLeaves (node.parts name path bound outer) = Site.tests name bound (node.sites path)
  | .restriction r => by
      simp [Node.parts, Node.sites, Site.tests, r.leaves_test?]
  | .group ⟨connective, negated, children⟩ => by
      have ih := Node.allParts_leaves name path bound connective children
      rw [Node.parts, Node.sites, ← ih]
      split
      · rfl
      · exact allLeaves_closeGroup ..
  | .join association _ ⟨connective, negated, children⟩ => by
      have ih := Node.allParts_leaves name (path ++ [association]) bound connective children
      rw [Node.parts, Node.sites, Site.tests, ← ih]
      split
      · rfl
      · exact allLeaves_closeGroup ..

theorem Node.allParts_leaves (name : List String → String) (path : List String) (bound : Nat)
    (outer : Connective) : ∀ nodes : List Node,
      allLeaves (Node.allParts name path bound outer nodes)
        = Site.tests name bound (Node.allSites path nodes)
  | [] => rfl
  | child :: rest => by
      rw [Node.allParts, Node.allSites, allLeaves_append, Site.tests_append,
        Node.parts_leaves name path bound outer child,
        Node.allParts_leaves name path _ outer rest]

end

theorem Scope.parts_leaves (name : List String → String) (base : Option BaseCondition)
    (scope : Scope) :
    allLeaves (scope.parts name base) = (base.map (·.part)).toList
      ++ Site.tests name ((base.map (·.values)).getD []).length scope.treeSites := by
  have hbase : allLeaves (base.map (·.part)).toList = (base.map (·.part)).toList := by
    cases base <;> rfl
  rw [Scope.parts, allLeaves_append, hbase, Node.allParts_leaves]
  rfl

/-! ## Tests of a walk -/

section

variable {s : Schema} {subject : Place} {d d' : Draft} {sites : List Site}

/-- What is walked over makes sense, so every restriction has its test. -/
theorem Walk.tests_columns (h : Walk s subject d sites d') (name : List String → String) :
    (Site.tests name d.bound sites).filterMap Condition.column?
      = (sites.filterMap Site.restriction?).map fun (path, r) => (name path, r.column) := by
  induction h with
  | nil => rfl
  | @restriction d _ path _ r form values _ _ hform _ ih =>
      rw [Draft.bound_bind, (Restriction.form_ok hform).2.1] at ih
      rw [Site.tests, Restriction.test?, hform, List.filterMap_append, ih]
      rfl
  | @visit d d₁ _ v _ _ _ hreach henter _ ih =>
      rw [Place.enter_bound henter] at ih
      rw [Site.tests, ih]
      rfl

/-- The placeholders of the tests are numbered on from what is bound, one
for each operand. -/
theorem Walk.tests_numbers (h : Walk s subject d sites d') (name : List String → String) :
    (Site.tests name d.bound sites).flatMap Condition.numbers
      = List.range' (d.bound + 1) (sites.flatMap Site.operands).length := by
  induction h with
  | nil => rfl
  | @restriction d _ path _ r form values _ _ hform _ ih =>
      obtain ⟨-, hvalues, hnumbers⟩ := Restriction.form_ok hform
      rw [Draft.bound_bind, hvalues] at ih
      rw [hvalues] at hnumbers
      rw [Site.tests, Restriction.test?, hform, List.flatMap_append, ih, List.flatMap_cons,
        Site.operands, List.length_append, ← List.range'_append_1, Nat.add_right_comm]
      simp [Condition.numbers, hnumbers]
  | @visit d d₁ _ v _ _ _ hreach henter _ ih =>
      rw [Place.enter_bound henter] at ih
      rw [Site.tests, ih]
      rfl

end

section

variable {s : Schema} {id : ModelId} {scope : Scope} {base : Option BaseCondition}
  {table : String} {d : Draft}

/-- The columns of the parts of a filter that was planned. -/
theorem Scope.parts_columns (h : Walk s ⟨id, table⟩ (.start table base) scope.sites d)
    (name : List String → String) :
    (allLeaves (scope.parts name base)).filterMap Condition.column?
      = scope.restrictions.map fun (path, r) => (name path, r.column) := by
  obtain ⟨_, htree, -⟩ := Walk.of_append h
  have hbase : (base.map (·.part)).toList.filterMap Condition.column? = [] := by
    cases base <;> rfl
  rw [Scope.parts_leaves, List.filterMap_append, hbase, List.nil_append]
  exact htree.tests_columns name

/-- The placeholders of the parts of a filter that was planned are
numbered from one on, and all values have theirs. -/
theorem Scope.parts_numbers (h : Walk s ⟨id, table⟩ (.start table base) scope.sites d)
    (name : List String → String) :
    (allLeaves (scope.parts name base)).flatMap Condition.numbers
      = List.range' 1 d.values.length := by
  obtain ⟨_, htree, -⟩ := Walk.of_append h
  have hbase : (base.map (·.part)).toList.flatMap Condition.numbers
      = List.range' 1 ((base.map (·.values)).getD []).length := by
    cases base with
    | none => rfl
    | some b => simp [BaseCondition.part, Condition.numbers]
  have htests := htree.tests_numbers name
  rw [flatMap_operands] at htests
  have hlength : d.values.length
      = ((base.map (·.values)).getD []).length + scope.operands.length := by
    rw [h.values, List.length_append, Scope.sites_operands]
    rfl
  rw [Scope.parts_leaves, List.flatMap_append, hbase, hlength, ← List.range'_append_1,
    Nat.add_comm 1]
  exact congrArg _ htests

end

end Criteria
