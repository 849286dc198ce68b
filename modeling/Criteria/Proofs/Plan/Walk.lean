import Criteria.Plan
import Criteria.Proofs.Filter.Document
import Criteria.Proofs.Schema.Lookup

/-!
# Planning as a walk

The spec lemmas of the planner, and the walk over a document that they
add up to. Each function of the planner has one lemma that says what its
success means (`Place.enter_ok`, `Restriction.plan_ok`), and nothing
below unfolds the planner again.

A site of a document names its place by a path. `Place.reach` finds the
place among the joins of a draft, and `Walk` passes over the sites one by
one. The main statement is `planAll_walk`: planning a tree is walking over
its sites, so an invariant of drafts needs one case for a restriction and
one for a visit, and no induction over trees.
-/

namespace Criteria

open Sql (Condition Connective JoinKind)

/-! ## Entering an association -/

theorem whileHaving_eq_ok {α : Type} {result : Except Failure α} {a : α} :
    whileHaving result = .ok a ↔ result = .ok a := by
  cases result with
  | ok b => exact Iff.rfl
  | error f => constructor <;> intro h <;> cases h

namespace Place

variable {s : Schema} {d d' : Draft} {owner target : Place}

/-- What an entry says and which names it takes. -/
theorem newEntry_ok {names names' : Names} {a : Association} {kind : JoinKind}
    {e : JoinEntry} (h : newEntry s names owner a kind = .ok (e, names')) :
    ∃ ownerEnd targetEnd, s.endpoint owner.model = .ok ownerEnd
      ∧ s.endpoint a.target = .ok targetEnd
      ∧ e.owner = owner.label ∧ e.association = a.name ∧ e.kind = kind
      ∧ e.label = names.choose targetEnd.table a.name owner.label
          (a.joinTable?.any fun j => names.contains j.table)
      ∧ e.hops = a.hops (ownerEnd.under owner.label) (targetEnd.under e.label)
      ∧ names'.used = names.used ++ e.label ::
          (a.joinTable?.map (·.labelFor (targetEnd.under e.label))).toList := by
  obtain ⟨table, ht, h⟩ := except_bind_ok.mp h
  obtain ⟨ownerEnd, ho, h⟩ := except_bind_ok.mp h
  obtain ⟨targetEnd, hte, h⟩ := except_bind_ok.mp h
  obtain rfl : table = targetEnd.table :=
    Except.ok.inj (ht.symm.trans (Schema.endpoint_ok hte).1)
  refine ⟨ownerEnd, targetEnd, ho, hte, ?_⟩
  cases hj : a.joinTable? with
  | none =>
      rw [hj] at h
      cases h
      exact ⟨rfl, rfl, rfl, rfl, rfl, rfl⟩
  | some j =>
      rw [hj] at h
      cases h
      exact ⟨rfl, rfl, rfl, rfl, rfl, by simp [Names.insert]⟩

theorem enter_run (s : Schema) (owner : Place) (name : String) (kind : JoinKind) (d : Draft) :
    (owner.enter s name kind).run d =
      (whileHaving (s.association owner.model name) >>= fun a =>
        match d.entry? owner.label a.name with
        | some entry => .ok ({ model := a.target, label := entry.label }, d)
        | none => (newEntry s d.names owner a kind).map fun (entry, names) =>
            ({ model := a.target, label := entry.label }, d.join entry names)) := by
  unfold enter
  rw [Planner.run_lift_bind]
  refine congrArg _ (funext fun a => ?_)
  rw [Planner.run_get_bind]
  cases d.entry? owner.label a.name with
  | some entry => rfl
  | none =>
      simp only [Planner.run_lift_bind]
      cases newEntry s d.names owner a kind <;> rfl

/-- Either the association is joined from here already and nothing
changes, or it is joined now. -/
theorem enter_ok {name : String} {kind : JoinKind}
    (h : (owner.enter s name kind).run d = .ok (target, d')) :
    ∃ a, s.association owner.model name = .ok a ∧ a.name = name ∧
      ((∃ e, d.entry? owner.label name = some e
          ∧ target = { model := a.target, label := e.label } ∧ d' = d) ∨
        (d.entry? owner.label name = none ∧
          ∃ e names, newEntry s d.names owner a kind = .ok (e, names)
            ∧ target = { model := a.target, label := e.label } ∧ d' = d.join e names)) := by
  obtain ⟨a, _, hlift, h₁⟩ := Planner.bind_ok.mp h
  obtain ⟨hhaving, rfl⟩ := Planner.lift_ok.mp hlift
  obtain ⟨_, _, hget, h₂⟩ := Planner.bind_ok.mp h₁
  obtain ⟨rfl, rfl⟩ := Planner.get_ok.mp hget
  have ha : s.association owner.model name = .ok a := whileHaving_eq_ok.mp hhaving
  have hname := Schema.association_name ha
  refine ⟨a, ha, hname, ?_⟩
  rw [hname] at h₂
  split at h₂
  · rename_i e he
    obtain ⟨rfl, rfl⟩ := Planner.pure_ok.mp h₂
    exact .inl ⟨e, he, rfl, rfl⟩
  · rename_i he
    obtain ⟨⟨e, names⟩, _, hnew, h₃⟩ := Planner.bind_ok.mp h₂
    obtain ⟨hnew, rfl⟩ := Planner.lift_ok.mp hnew
    obtain ⟨_, _, hset, h₄⟩ := Planner.bind_ok.mp h₃
    obtain rfl := Planner.set_ok.mp hset
    obtain ⟨rfl, rfl⟩ := Planner.pure_ok.mp h₄
    exact .inr ⟨he, e, names, hnew, rfl, rfl⟩

end Place

/-! ## Binding -/

theorem Draft.bound_bind (d : Draft) (values : List Value) :
    (d.bind values).bound = d.bound + values.length := by
  rw [Draft.bound, Draft.bind, List.length_append, Draft.bound]

theorem Place.enter_bound {s : Schema} {d d' : Draft} {owner target : Place} {name : String}
    {kind : JoinKind} (h : (owner.enter s name kind).run d = .ok (target, d')) :
    d'.bound = d.bound := by
  obtain ⟨a, -, -, ⟨e, -, -, rfl⟩ | ⟨-, e, names, -, -, rfl⟩⟩ := Place.enter_ok h <;> rfl

/-! ## Finding entries -/

namespace Draft

variable {d d' : Draft} {owner association : String} {e : JoinEntry}

theorem entry?_some (h : d.entry? owner association = some e) :
    e ∈ d.joins ∧ e.owner = owner ∧ e.association = association := by
  have hfound := List.find?_some h
  simp only [Bool.and_eq_true, decide_eq_true_eq] at hfound
  exact ⟨List.mem_of_find?_eq_some h, hfound⟩

/-- What is found is found after further joins as well. -/
theorem entry?_mono (hd : d.joins <+: d'.joins) (h : d.entry? owner association = some e) :
    d'.entry? owner association = some e := by
  obtain ⟨more, hmore⟩ := hd
  rw [Draft.entry?] at h ⊢
  rw [← hmore, List.find?_append, h, Option.some_or]

theorem entry?_join (h : d.entry? e.owner e.association = none) (names : Names) :
    Draft.entry? (d.join e names) e.owner e.association = some e := by
  rw [Draft.entry?] at h ⊢
  rw [join, List.find?_append, h, Option.none_or]
  simp

end Draft

/-! ## Places by their paths -/

namespace Place

variable {s : Schema} {d d' : Draft} {owner target : Place}

/-- The place at the end of a path whose associations are all joined. -/
def reach (s : Schema) (d : Draft) (here : Place) : List String → Option Place
  | [] => some here
  | association :: rest =>
    match s.association here.model association, d.entry? here.label association with
    | .ok a, some e => reach s d { model := a.target, label := e.label } rest
    | _, _ => none

theorem reach_cons {here there : Place} {association : String} {rest : List String} :
    here.reach s d (association :: rest) = some there ↔
      ∃ a e, s.association here.model association = .ok a
        ∧ d.entry? here.label association = some e
        ∧ reach s d { model := a.target, label := e.label } rest = some there := by
  rw [reach]
  split
  · rename_i a e ha he
    constructor
    · exact fun h => ⟨a, e, ha, he, h⟩
    · rintro ⟨a', e', ha', he', h⟩
      cases ha.symm.trans ha'
      cases he.symm.trans he'
      exact h
  · rename_i hno
    constructor
    · intro h
      cases h
    · rintro ⟨a, e, ha, he, -⟩
      exact absurd he (hno a e ha)

theorem reach_snoc {here there : Place} {association : String} {path : List String} :
    here.reach s d (path ++ [association]) = some there ↔
      ∃ owner a e, here.reach s d path = some owner
        ∧ s.association owner.model association = .ok a
        ∧ d.entry? owner.label association = some e
        ∧ there = { model := a.target, label := e.label } := by
  induction path generalizing here with
  | nil =>
      rw [List.nil_append, reach_cons]
      constructor
      · rintro ⟨a, e, ha, he, h⟩
        cases h
        exact ⟨here, a, e, rfl, ha, he, rfl⟩
      · rintro ⟨owner, a, e, h, ha, he, rfl⟩
        cases h
        exact ⟨a, e, ha, he, rfl⟩
  | cons first rest ih =>
      rw [List.cons_append, reach_cons]
      constructor
      · rintro ⟨a, e, ha, he, h⟩
        obtain ⟨owner, a', e', ho, h⟩ := ih.mp h
        exact ⟨owner, a', e', reach_cons.mpr ⟨a, e, ha, he, ho⟩, h⟩
      · rintro ⟨owner, a', e', ho, h⟩
        obtain ⟨a, e, ha, he, ho⟩ := reach_cons.mp ho
        exact ⟨a, e, ha, he, ih.mpr ⟨owner, a', e', ho, h⟩⟩

/-- Further joins do not move a place. -/
theorem reach_mono {here there : Place} {path : List String} (hd : d.joins <+: d'.joins)
    (h : here.reach s d path = some there) : here.reach s d' path = some there := by
  induction path generalizing here with
  | nil => exact h
  | cons association rest ih =>
      obtain ⟨a, e, ha, he, h⟩ := reach_cons.mp h
      exact reach_cons.mpr ⟨a, e, ha, Draft.entry?_mono hd he, ih h⟩

theorem enter_joins {name : String} {kind : JoinKind}
    (h : (owner.enter s name kind).run d = .ok (target, d')) : d.joins <+: d'.joins := by
  obtain ⟨a, -, -, ⟨e, -, -, rfl⟩ | ⟨-, e, names, -, -, rfl⟩⟩ := enter_ok h
  · exact List.prefix_rfl
  · exact List.prefix_append d.joins [e]

/-- Whoever enters an association stands at the end of the longer path. -/
theorem enter_reach {here : Place} {path : List String} {name : String} {kind : JoinKind}
    (hreach : here.reach s d path = some owner)
    (h : (owner.enter s name kind).run d = .ok (target, d')) :
    here.reach s d' (path ++ [name]) = some target := by
  have howner := reach_mono (enter_joins h) hreach
  obtain ⟨a, ha, hname, ⟨e, he, rfl, rfl⟩ | ⟨hnone, e, names, hnew, rfl, rfl⟩⟩ := enter_ok h
  · exact reach_snoc.mpr ⟨owner, a, e, howner, ha, he, rfl⟩
  · obtain ⟨_, _, -, -, heo, hea, -⟩ := newEntry_ok hnew
    rw [← hname, ← hea, ← heo] at hnone
    have hfound := Draft.entry?_join hnone names
    rw [hea, heo, hname] at hfound
    exact reach_snoc.mpr ⟨owner, a, e, howner, ha, hfound, rfl⟩

end Place

/-! ## Restrictions -/

namespace Restriction

theorem plan_run (s : Schema) (here : Place) (r : Restriction) (d : Draft) :
    (r.plan s here).run d = match r.form d.bound with
      | .ok (form, values) => .ok (.test
          { label := here.label, column := r.column, negated := r.negated, form }, d.bind values)
      | .error problem => s.name here.model >>= fun model => .error
          ((Failure.of (.malformedRestriction r.column problem)).map (·.withModel model)) := by
  unfold plan
  rw [Planner.run_get_bind]
  cases r.form d.bound with
  | ok result => rfl
  | error problem =>
      simp only [Planner.run_lift_bind]
      rfl

theorem plan_ok {s : Schema} {here : Place} {r : Restriction} {d d' : Draft} {part : Condition}
    (h : (r.plan s here).run d = .ok (part, d')) :
    ∃ form values, r.form d.bound = .ok (form, values) ∧ d' = d.bind values
      ∧ part = .test { label := here.label, column := r.column, negated := r.negated, form } := by
  obtain ⟨_, _, hget, h₁⟩ := Planner.bind_ok.mp h
  obtain ⟨rfl, rfl⟩ := Planner.get_ok.mp hget
  split at h₁
  · rename_i form values hform
    obtain ⟨_, _, hset, h₂⟩ := Planner.bind_ok.mp h₁
    obtain rfl := Planner.set_ok.mp hset
    obtain ⟨rfl, rfl⟩ := Planner.pure_ok.mp h₂
    exact ⟨form, values, hform, rfl, rfl⟩
  · obtain ⟨_, _, -, h₂⟩ := Planner.bind_ok.mp h₁
    cases h₂

end Restriction

/-! ## Walks -/

/-- A draft is led over the sites of a document to another draft: a
restriction binds its operands, a visit enters its association. -/
inductive Walk (s : Schema) (subject : Place) : Draft → List Site → Draft → Prop
  | nil (d : Draft) : Walk s subject d [] d
  | restriction {d d' : Draft} {path : List String} {here : Place} {r : Restriction}
      {form : Sql.TestForm} {values : List Value} {rest : List Site}
      (hreach : subject.reach s d path = some here)
      (hform : r.form d.bound = .ok (form, values))
      (hrest : Walk s subject (d.bind values) rest d') :
      Walk s subject d (.restriction path r :: rest) d'
  | visit {d d₁ d' : Draft} {v : Visit} {owner target : Place} {rest : List Site}
      (hreach : subject.reach s d v.path = some owner)
      (henter : (owner.enter s v.association v.kind).run d = .ok (target, d₁))
      (hrest : Walk s subject d₁ rest d') :
      Walk s subject d (.visit v :: rest) d'

namespace Walk

variable {s : Schema} {subject : Place} {d d₁ d' : Draft} {xs ys : List Site}

theorem append (hx : Walk s subject d xs d₁) (hy : Walk s subject d₁ ys d') :
    Walk s subject d (xs ++ ys) d' := by
  induction hx with
  | nil => exact hy
  | restriction hreach hform _ ih => exact .restriction hreach hform (ih hy)
  | visit hreach henter _ ih => exact .visit hreach henter (ih hy)

theorem of_append (h : Walk s subject d (xs ++ ys) d') :
    ∃ d₁, Walk s subject d xs d₁ ∧ Walk s subject d₁ ys d' := by
  induction xs generalizing d with
  | nil => exact ⟨d, .nil d, h⟩
  | cons x xs ih =>
      cases h with
      | restriction hreach hform hrest =>
          obtain ⟨d₁, hx, hy⟩ := ih hrest
          exact ⟨d₁, .restriction hreach hform hx, hy⟩
      | visit hreach henter hrest =>
          obtain ⟨d₁, hx, hy⟩ := ih hrest
          exact ⟨d₁, .visit hreach henter hx, hy⟩

/-- Joins are only ever added, at the end. -/
theorem joins (h : Walk s subject d xs d') : d.joins <+: d'.joins := by
  induction h with
  | nil => exact List.prefix_rfl
  | restriction _ _ _ ih => exact ih
  | visit _ henter _ ih => exact (Place.enter_joins henter).trans ih

theorem reach (h : Walk s subject d xs d') {path : List String} {here : Place}
    (hreach : subject.reach s d path = some here) :
    subject.reach s d' path = some here :=
  Place.reach_mono h.joins hreach

/-- The values bound are the operands of the restrictions passed. -/
theorem values (h : Walk s subject d xs d') :
    d'.values = d.values ++ xs.flatMap Site.operands := by
  induction h with
  | nil => simp
  | restriction _ hform _ ih =>
      rw [ih, (Restriction.form_ok hform).2.1]
      simp [Draft.bind, Site.operands]
  | visit _ henter _ ih =>
      rw [ih]
      obtain ⟨a, -, -, ⟨e, -, -, rfl⟩ | ⟨-, e, names, -, -, rfl⟩⟩ := Place.enter_ok henter
        <;> simp [Draft.join, Site.operands]

theorem values_prefix (h : Walk s subject d xs d') : d.values <+: d'.values := by
  rw [h.values]
  exact List.prefix_append ..

theorem bound (h : Walk s subject d xs d') :
    d'.bound = d.bound + (xs.flatMap Site.operands).length := by
  rw [Draft.bound, h.values, List.length_append, Draft.bound]

end Walk

/-! ## Planning in two lots -/

section

variable {s : Schema}

theorem Node.planAll_append (outer : Connective) (here : Place) (xs ys : List Node) :
    Node.planAll s outer here (xs ++ ys) = (do
      let parts ← Node.planAll s outer here xs
      let more ← Node.planAll s outer here ys
      return parts ++ more) := by
  induction xs with
  | nil => simp [Node.planAll]
  | cons x xs ih =>
      simp only [List.cons_append, Node.planAll, ih, bind_assoc, pure_bind, List.append_assoc]

theorem OrderEntry.planAll_append (subject : Place) (xs ys : List OrderEntry) :
    OrderEntry.planAll s subject (xs ++ ys) = (do
      let order ← OrderEntry.planAll s subject xs
      let more ← OrderEntry.planAll s subject ys
      return order ++ more) := by
  induction xs with
  | nil => simp [OrderEntry.planAll]
  | cons x xs ih => simp [OrderEntry.planAll, ih]

theorem ColumnRef.planAll_append (subject : Place) (xs ys : List ColumnRef) :
    ColumnRef.planAll s subject (xs ++ ys) = (do
      let texts ← ColumnRef.planAll s subject xs
      let more ← ColumnRef.planAll s subject ys
      return texts ++ more) := by
  induction xs with
  | nil => simp [ColumnRef.planAll]
  | cons x xs ih => simp [ColumnRef.planAll, ih]

end

/-! ## Planning walks over the sites -/

section

variable {s : Schema} {subject : Place}

mutual

theorem Node.plan_walk {outer : Connective} {path : List String} {here : Place} {d d' : Draft}
    {parts : List Condition} : ∀ {node : Node}, subject.reach s d path = some here →
      (node.plan s outer here).run d = .ok (parts, d') → Walk s subject d (node.sites path) d'
  | .restriction r, hreach, h => by
      obtain ⟨part, _, hr, h⟩ := Planner.bind_ok.mp h
      obtain ⟨-, rfl⟩ := Planner.pure_ok.mp h
      obtain ⟨form, values, hform, rfl, -⟩ := Restriction.plan_ok hr
      exact .restriction hreach hform (.nil _)
  | .group ⟨connective, negated, children⟩, hreach, h => by
      obtain ⟨inner, _, hchildren, h⟩ := Planner.bind_ok.mp h
      have hwalk := Node.planAll_walk hreach hchildren
      split at h <;> obtain ⟨-, rfl⟩ := Planner.pure_ok.mp h <;> exact hwalk
  | .join association kind ⟨connective, negated, children⟩, hreach, h => by
      obtain ⟨target, _, henter, h⟩ := Planner.bind_ok.mp h
      obtain ⟨inner, _, hchildren, h⟩ := Planner.bind_ok.mp h
      have hwalk := Node.planAll_walk (Place.enter_reach hreach henter) hchildren
      split at h <;> obtain ⟨-, rfl⟩ := Planner.pure_ok.mp h <;>
        exact .visit hreach henter hwalk

theorem Node.planAll_walk {outer : Connective} {path : List String} {here : Place}
    {d d' : Draft} {parts : List Condition} : ∀ {nodes : List Node},
      subject.reach s d path = some here →
      (Node.planAll s outer here nodes).run d = .ok (parts, d') →
      Walk s subject d (Node.allSites path nodes) d'
  | [], _, h => by
      obtain ⟨-, rfl⟩ := Planner.pure_ok.mp h
      exact .nil _
  | child :: rest, hreach, h => by
      obtain ⟨first, _, hchild, h⟩ := Planner.bind_ok.mp h
      obtain ⟨others, _, hrest, h⟩ := Planner.bind_ok.mp h
      obtain ⟨-, rfl⟩ := Planner.pure_ok.mp h
      have hfirst := Node.plan_walk hreach hchild
      exact hfirst.append (Node.planAll_walk (hfirst.reach hreach) hrest)

end

theorem Place.follow_walk {here target : Place} {path associations : List String}
    {d d' : Draft} (hreach : subject.reach s d path = some here)
    (h : (here.follow s associations).run d = .ok (target, d')) :
    Walk s subject d ((Visit.along path associations).map .visit) d'
      ∧ subject.reach s d' (path ++ associations) = some target := by
  induction associations generalizing here path d with
  | nil =>
      obtain ⟨rfl, rfl⟩ := Planner.pure_ok.mp h
      exact ⟨.nil _, by simpa using hreach⟩
  | cons association rest ih =>
      obtain ⟨next, _, henter, h⟩ := Planner.bind_ok.mp h
      obtain ⟨hwalk, htarget⟩ := ih (Place.enter_reach hreach henter) h
      exact ⟨.visit hreach henter hwalk, by simpa using htarget⟩

theorem ColumnRef.plan_walk {column : ColumnRef} {text : String} {d d' : Draft}
    (h : (column.plan s subject).run d = .ok (text, d')) :
    Walk s subject d (column.visits.map .visit) d' := by
  cases column with
  | literal sql =>
      obtain ⟨-, rfl⟩ := Planner.pure_ok.mp h
      exact .nil _
  | name column =>
      obtain ⟨-, rfl⟩ := Planner.lift_ok.mp h
      exact .nil _
  | path associations column =>
      obtain ⟨here, _, hfollow, h⟩ := Planner.bind_ok.mp h
      obtain ⟨-, rfl⟩ := Planner.lift_ok.mp h
      exact (Place.follow_walk rfl hfollow).1

theorem ColumnRef.planAll_walk {columns : List ColumnRef} {texts : List String}
    {d d' : Draft} (h : (ColumnRef.planAll s subject columns).run d = .ok (texts, d')) :
    Walk s subject d ((columns.flatMap ColumnRef.visits).map .visit) d' := by
  induction columns generalizing d texts with
  | nil =>
      obtain ⟨-, rfl⟩ := Planner.pure_ok.mp h
      exact .nil _
  | cons column rest ih =>
      obtain ⟨text, _, hcolumn, h⟩ := Planner.bind_ok.mp h
      obtain ⟨others, _, hrest, h⟩ := Planner.bind_ok.mp h
      obtain ⟨-, rfl⟩ := Planner.pure_ok.mp h
      rw [List.flatMap_cons, List.map_append]
      exact (ColumnRef.plan_walk hcolumn).append (ih hrest)

theorem OrderEntry.planAll_walk {entries : List OrderEntry} {order : List (String × SortOrder)}
    {d d' : Draft} (h : (OrderEntry.planAll s subject entries).run d = .ok (order, d')) :
    Walk s subject d (((entries.map (·.column)).flatMap ColumnRef.visits).map .visit) d' := by
  induction entries generalizing d order with
  | nil =>
      obtain ⟨-, rfl⟩ := Planner.pure_ok.mp h
      exact .nil _
  | cons entry rest ih =>
      obtain ⟨text, _, hcolumn, h⟩ := Planner.bind_ok.mp h
      obtain ⟨others, _, hrest, h⟩ := Planner.bind_ok.mp h
      obtain ⟨-, rfl⟩ := Planner.pure_ok.mp h
      rw [List.map_cons, List.flatMap_cons, List.map_append]
      exact (ColumnRef.plan_walk hcolumn).append (ih hrest)

end

/-- A filter is planned on the table of its subject, and written out. -/
theorem Schema.compile_run {s : Schema} {id : ModelId} {table : String}
    (htable : s.table id = .ok table) (config : Config) (scope : Scope)
    (base : Option BaseCondition) : s.compile config id scope base =
      ((scope.plan s ⟨id, table⟩).run (.start table base)).map
        fun ((parts, order, groupBy), draft) => Plan.query config
          { condition := Condition.combine .all ((base.map (·.part)).toList ++ parts)
            values := draft.values, joins := draft.joins, order, groupBy
            clauses := scope.clauses } := by
  rw [Schema.compile, Schema.plan, htable]
  cases hrun : (scope.plan s ⟨id, table⟩).run (.start table base) with
  | error f => simp only [bind, Except.bind, hrun, Except.map]
  | ok result => simp only [bind, Except.bind, hrun, Except.map, pure, Except.pure]

/-- A query that a filter compiles to is its plan written out. -/
theorem Schema.compile_planned {s : Schema} {config : Config} {id : ModelId} {scope : Scope}
    {base : Option BaseCondition} {q : Query} (h : s.compile config id scope base = .ok q) :
    ∃ table parts order groupBy draft, s.table id = .ok table
      ∧ (scope.plan s ⟨id, table⟩).run (.start table base) = .ok ((parts, order, groupBy), draft)
      ∧ q = Plan.query config
          { condition := Condition.combine .all ((base.map (·.part)).toList ++ parts)
            values := draft.values, joins := draft.joins, order, groupBy
            clauses := scope.clauses } := by
  cases htable : s.table id with
  | error f =>
      rw [Schema.compile, Schema.plan, htable] at h
      cases h
  | ok table =>
      rw [compile_run htable] at h
      cases hrun : (scope.plan s ⟨id, table⟩).run (.start table base) with
      | error f =>
          rw [hrun] at h
          cases h
      | ok result =>
          obtain ⟨⟨parts, order, groupBy⟩, draft⟩ := result
          rw [hrun] at h
          cases h
          exact ⟨table, parts, order, groupBy, draft, rfl, hrun, rfl⟩

/-- The parts come from the tree, planned first, and then the columns are
walked over. -/
theorem Scope.plan_ok {s : Schema} {subject : Place} {scope : Scope} {d d' : Draft}
    {parts : List Condition} {order : List (String × SortOrder)} {groupBy : List String}
    (h : (scope.plan s subject).run d = .ok ((parts, order, groupBy), d')) :
    ∃ d₁, (Node.planAll s scope.group.connective subject scope.group.children).run d
          = .ok (parts, d₁)
      ∧ Walk s subject d₁ ((scope.columns.flatMap ColumnRef.visits).map .visit) d'
      ∧ Walk s subject d scope.sites d' := by
  obtain ⟨parts', d₁, hparts, h₁⟩ := Planner.bind_ok.mp h
  obtain ⟨order', d₂, horder, h₂⟩ := Planner.bind_ok.mp h₁
  obtain ⟨groupBy', d₃, hgroupBy, h₃⟩ := Planner.bind_ok.mp h₂
  obtain ⟨heq, rfl⟩ := Planner.pure_ok.mp h₃
  cases heq
  have hcolumns : Walk s subject d₁ ((scope.columns.flatMap ColumnRef.visits).map .visit) d' := by
    rw [Scope.columns, List.flatMap_append, List.map_append]
    exact (OrderEntry.planAll_walk horder).append (ColumnRef.planAll_walk hgroupBy)
  exact ⟨d₁, hparts, hcolumns, (Node.planAll_walk rfl hparts).append hcolumns⟩

/-- The plan of a filter comes from a walk over the whole document, which
starts with the subject and its base alone. -/
theorem Schema.plan_ok {s : Schema} {id : ModelId} {scope : Scope} {base : Option BaseCondition}
    {plan : Plan} (h : s.plan id scope base = .ok plan) :
    ∃ table parts d₁ d', s.table id = .ok table
      ∧ (Node.planAll s scope.group.connective ⟨id, table⟩ scope.group.children).run
          (.start table base) = .ok (parts, d₁)
      ∧ Walk s ⟨id, table⟩ d₁ ((scope.columns.flatMap ColumnRef.visits).map .visit) d'
      ∧ Walk s ⟨id, table⟩ (.start table base) scope.sites d'
      ∧ plan.condition = Condition.combine .all ((base.map (·.part)).toList ++ parts)
      ∧ plan.values = d'.values ∧ plan.joins = d'.joins := by
  obtain ⟨table, htable, h⟩ := except_bind_ok.mp h
  obtain ⟨⟨⟨parts, order, groupBy⟩, d'⟩, hscope, h⟩ := except_bind_ok.mp h
  cases h
  obtain ⟨d₁, hparts, hcolumns, hwalk⟩ := Scope.plan_ok hscope
  exact ⟨table, parts, d₁, d', htable, hparts, hcolumns, hwalk, rfl, rfl, rfl⟩

theorem Schema.compile_ok {s : Schema} {id : ModelId} {scope : Scope}
    {base : Option BaseCondition} {config : Config} {q : Query}
    (h : s.compile config id scope base = .ok q) :
    ∃ plan, s.plan id scope base = .ok plan ∧ q = plan.query config := by
  obtain ⟨plan, hplan, h⟩ := except_bind_ok.mp h
  cases h
  exact ⟨plan, hplan, rfl⟩

end Criteria
