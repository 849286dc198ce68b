import Criteria.Proofs.Plan.Binding
import Criteria.Proofs.Plan.Compositional
import Criteria.Proofs.Plan.Meaning
import Criteria.Proofs.Sql.Guard

/-!
# Planning after a base

What a base changes. Planning asks how many values are bound, for the
numbers of placeholders, and looks at no value; so after the values of a
base it does what it does without them, and the tests it makes are
shifted (`Planner.Echoes`, which is composed along the binds).
The main statement, `compile_base`, says what this comes to: the base is
one more part at the front of the condition, its values come first, and
nothing else of the query changes. The condition holds where the base does
and the condition without the base does (`BaseCondition.Guards`), whatever
connectives the base has on its outside.
-/

namespace Criteria

open Sql (Condition Connective Expr JoinKind Template Truth)

/-! ## Drafts with further values -/

namespace Draft

/-- The draft with values bound before its own. -/
def after (values : List Value) (d : Draft) : Draft := { d with values := values ++ d.values }

theorem bound_after (values : List Value) (d : Draft) :
    (d.after values).bound = values.length + d.bound :=
  List.length_append

theorem bind_after (values own : List Value) (d : Draft) :
    (d.after values).bind own = (d.bind own).after values := by
  simp [after, bind]

/-- A statement starts with its base as if the values had come later. -/
theorem start_base (table : String) (base : BaseCondition) :
    start table (some base) = (start table none).after base.values := by
  simp [start, after]

end Draft

/-! ## Echoes -/

namespace Planner

variable {α β γ δ : Type} {values : List Value}

/-- After further values, `y` does what `x` does without them, and ends
with the result that `f` makes of the one of `x`. -/
def Echoes (values : List Value) (f : α → β) (x : Planner α) (y : Planner β) : Prop :=
  ∀ d, y.run (d.after values) = (x.run d).map fun (a, d') => (f a, d'.after values)

theorem Echoes.pure (f : α → β) (a : α) :
    Echoes values f (Pure.pure a : Planner α) (Pure.pure (f a)) :=
  fun _ => rfl

theorem Echoes.lift (x : Except Failure α) :
    Echoes values id (liftM x : Planner α) (liftM x) := by
  intro d
  cases x <;> rfl

theorem Echoes.bind {f : α → β} {h : γ → δ} {x : Planner α} {y : Planner β} {g : α → Planner γ}
    {g' : β → Planner δ} (hx : Echoes values f x y)
    (hg : ∀ a, Echoes values h (g a) (g' (f a))) : Echoes values h (x >>= g) (y >>= g') := by
  intro d
  rw [StateT.run_bind, StateT.run_bind, hx d]
  cases x.run d with
  | error e => rfl
  | ok result => exact hg result.1 result.2

end Planner

open Planner (Echoes)

/-! ## The functions of the planner -/

theorem Restriction.form_shift (r : Restriction) (k bound : Nat) :
    r.form (k + bound) = (r.form bound).map fun (form, values) => (form.shift k, values) := by
  unfold form
  split
  case h_1 => rfl
  case h_2 => rfl
  case h_3 => cases r.bounds <;> rfl
  case h_4 =>
    cases r.needed .inList with
    | error problem => rfl
    | ok v => cases hlist : v.isList <;> simp [bind, Except.bind, hlist] <;> rfl
  case h_5 => cases r.needed .like <;> rfl
  case h_6 c _ => cases r.needed (.compare c) <;> rfl

theorem closeGroup_shift (k : Nat) (connective : Connective) (negated : Bool)
    (parts : List Condition) : closeGroup connective negated (parts.map (Condition.shift k))
      = (closeGroup connective negated parts).map (Condition.shift k) := by
  unfold closeGroup
  rw [Condition.combine_shift]
  cases Condition.combine connective parts with
  | none => rfl
  | some c => simp [Condition.negateIf_shift]

section

variable {s : Schema} (values : List Value)

theorem Restriction.plan_echoes (here : Place) (r : Restriction) :
    Echoes values (Condition.shift values.length) (r.plan s here) (r.plan s here) := by
  intro d
  rw [Restriction.plan_run, Restriction.plan_run, Draft.bound_after, Restriction.form_shift]
  cases r.form d.bound with
  | ok result =>
      simp only [Except.map, Draft.bind_after]
      rfl
  | error problem =>
      simp only [Except.map]
      cases s.name here.model <;> rfl

theorem Place.enter_echoes (owner : Place) (name : String) (kind : JoinKind) :
    Echoes values id (owner.enter s name kind) (owner.enter s name kind) := by
  intro d
  rw [Place.enter_run, Place.enter_run]
  cases whileHaving (s.association owner.model name) with
  | error f => rfl
  | ok a =>
      have hentry : Draft.entry? (d.after values) owner.label a.name
          = d.entry? owner.label a.name := rfl
      simp only [bind, Except.bind, hentry]
      cases d.entry? owner.label a.name with
      | some entry => rfl
      | none =>
          have hnames : (d.after values).names = d.names := rfl
          rw [hnames]
          cases Place.newEntry s d.names owner a kind <;> rfl

mutual

theorem Node.plan_echoes (outer : Connective) (here : Place) : ∀ node : Node,
    Echoes values (List.map (Condition.shift values.length)) (node.plan s outer here)
      (node.plan s outer here)
  | .restriction r => (Restriction.plan_echoes values here r).bind fun _ => .pure _ _
  | .group ⟨connective, negated, children⟩ => by
      refine (Node.planAll_echoes connective here children).bind fun parts => ?_
      split
      · exact .pure _ _
      · rw [closeGroup_shift]
        exact .pure _ _
  | .join association kind ⟨connective, negated, children⟩ => by
      refine (Place.enter_echoes values here association kind).bind fun target => ?_
      refine (Node.planAll_echoes connective target children).bind fun parts => ?_
      split
      · exact .pure _ _
      · rw [closeGroup_shift]
        exact .pure _ _

theorem Node.planAll_echoes (outer : Connective) (here : Place) : ∀ nodes : List Node,
    Echoes values (List.map (Condition.shift values.length)) (Node.planAll s outer here nodes)
      (Node.planAll s outer here nodes)
  | [] => .pure _ _
  | child :: rest => by
      refine (Node.plan_echoes outer here child).bind fun parts => ?_
      refine (Node.planAll_echoes outer here rest).bind fun others => ?_
      rw [← List.map_append]
      exact .pure _ _

end

theorem echoes_compositional :
    Planner.Compositional s fun x => Echoes values id x x where
  pure := Echoes.pure id
  bind := Echoes.bind
  column _ _ := .lift _
  enter := Place.enter_echoes values

theorem Scope.plan_echoes (subject : Place) (scope : Scope) :
    Echoes values (fun (parts, order, groupBy) =>
        (parts.map (Condition.shift values.length), order, groupBy))
      (scope.plan s subject) (scope.plan s subject) :=
  (Node.planAll_echoes values scope.group.connective subject scope.group.children).bind fun _ =>
    ((echoes_compositional values).order subject scope.clauses.order).bind fun _ =>
      ((echoes_compositional values).columns subject scope.clauses.groupBy).bind fun _ => .pure _ _

end

/-! ## The parts of a plan -/

section

variable {s : Schema} {id : ModelId} {table : String} {scope : Scope} {d : Draft}
  {parts : List Condition} {order : List (String × SortOrder)} {groupBy : List String}

/-- The leaves of the parts are the tests of the restrictions. -/
theorem Scope.plan_leaves
    (h : (scope.plan s ⟨id, table⟩).run (.start table none) = .ok ((parts, order, groupBy), d))
    {name : List String → String} (hname : d.NamedBy s ⟨id, table⟩ name) :
    Condition.allLeaves parts = Site.tests name 0 scope.treeSites
      ∧ Walk s ⟨id, table⟩ (.start table none) scope.sites d := by
  obtain ⟨d₁, hparts, hcolumns, hwalk⟩ := Scope.plan_ok h
  have hreach : Place.reach s (.start table none) ⟨id, table⟩ [] = some ⟨id, table⟩ := rfl
  have heq := Node.planAll_parts hreach hparts (hname.mono hcolumns.joins)
  refine ⟨?_, hwalk⟩
  rw [heq, Node.allParts_leaves]
  rfl

/-- Their placeholders are numbered from one on, as many as there are
values. -/
theorem Scope.plan_numbers
    (h : (scope.plan s ⟨id, table⟩).run (.start table none) = .ok ((parts, order, groupBy), d)) :
    (Condition.allLeaves parts).flatMap Condition.numbers = List.range' 1 d.values.length := by
  have hname := Draft.namedBy_nameAt s ⟨id, table⟩ d
  obtain ⟨hleaves, hwalk⟩ := Scope.plan_leaves h hname
  have hparts := Scope.parts_numbers hwalk (d.nameAt s ⟨id, table⟩)
  rw [Scope.parts_leaves] at hparts
  rw [hleaves]
  exact hparts

theorem Scope.plan_regular
    (h : (scope.plan s ⟨id, table⟩).run (.start table none) = .ok ((parts, order, groupBy), d))
    (quote : Bool) : ∀ leaf ∈ Condition.allLeaves parts, leaf.Regular quote := by
  obtain ⟨hleaves, -⟩ := Scope.plan_leaves h (Draft.namedBy_nameAt s ⟨id, table⟩ d)
  intro leaf hleaf
  rw [hleaves] at hleaf
  obtain ⟨_, _, t, -, rfl, -, -⟩ := Site.mem_tests hleaf
  exact Condition.regular_test quote t

/-- No table and no association has a dollar sign in its name. -/
structure Schema.NoDollar (s : Schema) : Prop where
  table : ∀ id table, s.table id = .ok table → '$' ∉ table.toList
  association : ∀ m ∈ s.models, ∀ a ∈ m.associations, '$' ∉ a.name.toList

theorem Schema.NoDollar.spelledWith (hs : s.NoDollar) : s.SpelledWith (· ≠ '$') :=
  Schema.spelledWith_ne (by decide) (by decide) hs.table hs.association

theorem Scope.plan_noDollar
    (h : (scope.plan s ⟨id, table⟩).run (.start table none) = .ok ((parts, order, groupBy), d))
    (htable : s.table id = .ok table) (hs : s.NoDollar)
    (hcolumns : ∀ p ∈ scope.restrictions, '$' ∉ p.2.column.toList) (quote : Bool) :
    ∀ leaf ∈ Condition.allLeaves parts, (leaf.template quote).NoDollar := by
  have hname := Draft.namedBy_nameAt s ⟨id, table⟩ d
  obtain ⟨hleaves, hwalk⟩ := Scope.plan_leaves h hname
  intro leaf hleaf
  rw [hleaves] at hleaf
  obtain ⟨x, hx, t, rfl, hlabel, hcolumn⟩ := hs.spelledWith.tests htable hwalk hname leaf hleaf
  refine Condition.noDollar_test (spelled_ne_iff.mp hlabel) ?_
  rw [hcolumn]
  exact hcolumns x hx

end

/-! ## Queries with a base -/

/-- The text of a base as it stands at the front of a condition. -/
def BaseCondition.text (config : Config) (base : BaseCondition) : String :=
  config.placeholders.renumber 0 base.values.length base.condition

/-- What a base makes of the condition of a scope, under these names for
its paths: `q` is the query without the base, `q'` with it. -/
structure BaseCondition.Guards (config : Config) (name : List String → String) (scope : Scope)
    (base : BaseCondition) (q q' : Query) : Prop where
  before : q.condition = Sql.conjoined ((scope.parts name none).map (Condition.text config))
  /-- The parts are those of the scope, with the text of the base before
  them. -/
  after : q'.condition = Sql.conjoined (base.text config
    :: ((scope.parts name none).map (Condition.shift base.values.length)).map
        (Condition.text config))
  parts : scope.parts name (some base)
    = base.part :: (scope.parts name none).map (Condition.shift base.values.length)
  alone : q.condition = none → q'.condition = some (base.text config)
  /-- The condition holds where the base does, and the former condition
  does, if there is one. -/
  holds : ∀ given v,
    (Condition.combine .all (scope.parts name (some base))).bind (Condition.truth? given v)
        = some .yes
      ↔ given = .yes ∧ (scope.parts name none = []
        ∨ (Condition.combine .all (scope.parts name none)).bind
            (Condition.truth? given fun a => v (a.shift base.values.length)) = some .yes)

/-- What a base changes of a query: `q` is without it, `q'` with it. -/
structure BaseCondition.Leads (s : Schema) (config : Config) (id : ModelId) (scope : Scope)
    (base : BaseCondition) (q q' : Query) : Prop where
  joins : q'.joins = q.joins
  order : q'.order = q.order
  groupBy : q'.groupBy = q.groupBy
  limit : q'.limit = q.limit
  offset : q'.offset = q.offset
  selected : q'.selected = q.selected
  distinct : q'.distinct = q.distinct
  bindValues : q'.bindValues = base.values ++ q.bindValues
  /-- Under the names that the joins give to the paths, the base comes
  before the parts of the scope. What is written for these has a hole for
  each value, which is filled in from one on without the base, and after
  the placeholders of the base with it. Nothing else in them looks like a
  numbered placeholder, unless a name does. -/
  condition : ∃ name, PathNames s id scope name
    ∧ List.Forall₂ (Visit.Clause s id config.quoteTables name) (Visit.firsts scope.visits) q.joins
    ∧ base.Guards config name scope q q'
    ∧ ∃ templates, templates
          = (scope.parts name none).map (Condition.template config.quoteTables)
      ∧ Template.allHoles templates = q.bindValues.length
      ∧ (scope.parts name none).map (Condition.text config)
        = Template.fillAll config.placeholders.placeholder 0 templates
      ∧ ((scope.parts name none).map (Condition.shift base.values.length)).map
          (Condition.text config)
        = Template.fillAll config.placeholders.placeholder base.values.length templates
      ∧ (s.NoDollar → (∀ p ∈ scope.restrictions, '$' ∉ p.2.column.toList) →
          ∀ t ∈ templates, t.NoDollar)
  /-- The same of the texts as they are read, if the base can be read on
  its own and has a value for each of its question marks. -/
  reading : scope.Built → config.quoteTables = true →
    (∀ p ∈ scope.restrictions, Sql.isPlain p.2.column = true) →
    ∀ guard, Sql.read (base.text config) = some guard →
      (config.placeholders = .question → Sql.openMarks base.condition = base.values.length) →
      ∀ text, q.condition = some text → ∃ e text' e', Sql.read text = some e
        ∧ q'.condition = some text' ∧ Sql.read text' = some e'
        ∧ ∀ v, e'.eval v
          = (guard.eval v).and (e.eval fun a => v (a.shift base.values.length))
  /-- The base stays as it is where placeholders have no number. -/
  plain : config.placeholders = .question → base.text config = base.condition
  /-- With a value for each of its live question marks, the base has the
  first placeholders. -/
  marks : (Sql.cut false base.condition.toList).holes = base.values.length →
    base.text config = String.ofList
      ((Sql.cut false base.condition.toList).fill config.placeholders.placeholder 0)

theorem Schema.compile_base_run {s : Schema} {id : ModelId} {table : String}
    (htable : s.table id = .ok table) (config : Config) (scope : Scope) (base : BaseCondition) :
    s.compile config id scope (some base) =
      ((scope.plan s ⟨id, table⟩).run (.start table none)).map
        fun ((parts, order, groupBy), draft) => Plan.query config
          { condition := Condition.combine .all
              (base.part :: parts.map (Condition.shift base.values.length))
            values := base.values ++ draft.values, joins := draft.joins, order, groupBy
            clauses := scope.clauses } := by
  rw [compile_run htable, Draft.start_base, Scope.plan_echoes base.values]
  cases (scope.plan s ⟨id, table⟩).run (.start table none) <;> rfl

/-- The parts of a plan, and what they are after the values of a base. -/
theorem Scope.plan_base_parts {s : Schema} {id : ModelId} {table : String} {scope : Scope}
    {d : Draft} {parts : List Condition} {order : List (String × SortOrder)}
    {groupBy : List String}
    (h : (scope.plan s ⟨id, table⟩).run (.start table none) = .ok ((parts, order, groupBy), d))
    {name : List String → String} (hname : d.NamedBy s ⟨id, table⟩ name) (base : BaseCondition) :
    parts = scope.parts name none
      ∧ scope.parts name (some base)
        = base.part :: parts.map (Condition.shift base.values.length) := by
  have hafter := Scope.plan_echoes (s := s) base.values ⟨id, table⟩ scope (.start table none)
  rw [h] at hafter
  obtain ⟨d₁, hparts, hcolumns, -⟩ := Scope.plan_ok h
  obtain ⟨d₂, hshifted, hcolumns', -⟩ := Scope.plan_ok hafter
  have hname' : (d.after base.values).NamedBy s ⟨id, table⟩ name :=
    hname.mono (List.prefix_refl d.joins)
  have hreach (d : Draft) : Place.reach s d ⟨id, table⟩ [] = some ⟨id, table⟩ := rfl
  have heq := Node.planAll_parts (hreach _) hparts (hname.mono hcolumns.joins)
  have heq' := Node.planAll_parts (hreach _) hshifted (hname'.mono hcolumns'.joins)
  rw [Draft.bound_after] at heq'
  exact ⟨heq, by rw [heq']; rfl⟩

/-- The base guards a scope with these parts. -/
theorem Scope.parts_guards {scope : Scope} {name : List String → String} {base : BaseCondition}
    {q q' : Query} {config : Config}
    (hparts : scope.parts name (some base)
      = base.part :: (scope.parts name none).map (Condition.shift base.values.length))
    (h : q.condition = (Condition.combine .all (scope.parts name none)).map (Condition.text config))
    (h' : q'.condition
      = (Condition.combine .all (scope.parts name (some base))).map (Condition.text config)) :
    base.Guards config name scope q q' where
  before := by rw [h, Condition.combine_text]
  after := by
    rw [h', hparts, Condition.combine_text]
    rfl
  parts := hparts
  alone hnone := by
    rw [h, Option.map_eq_none_iff] at hnone
    by_cases hempty : scope.parts name none = []
    · rw [h', hparts, hempty]
      rfl
    · obtain ⟨c, hc⟩ := Condition.combine_some (k := .all) hempty
      rw [hnone] at hc
      cases hc
  holds given v := by
    rw [hparts, Condition.combine_all_cons_yes, Condition.combine_truth_shift, List.map_eq_nil_iff]
    exact and_congr_left' (Option.some_inj (a := given) (b := .yes))

/-- The text of a guarded condition, as it is read. -/
theorem Scope.read_guarded {s : Schema} {id : ModelId} {table : String} {scope : Scope}
    {d : Draft} {name : List String → String} {base : BaseCondition} {config : Config}
    {q q' : Query} {guard : Expr} {text : String} (hguards : base.Guards config name scope q q')
    (hwalk : Walk s ⟨id, table⟩ (.start table none) scope.sites d) (hbuilt : scope.Built)
    (hquote : config.quoteTables = true)
    (hplain : ∀ p ∈ scope.restrictions, Sql.isPlain p.2.column = true)
    (hguard : Sql.read (base.text config) = some guard)
    (hmarks : config.placeholders = .question →
      Sql.openMarks base.condition = base.values.length)
    (htext : q.condition = some text) :
    ∃ e text' e', Sql.read text = some e ∧ q'.condition = some text' ∧ Sql.read text' = some e'
      ∧ ∀ v, e'.eval v = (guard.eval v).and (e.eval fun a => v (a.shift base.values.length)) := by
  -- the condition without the base
  obtain ⟨es, hes, -⟩ := Scope.parts_meaning hbuilt hwalk name
  rw [hguards.before, ← Condition.combine_text] at htext
  obtain ⟨c, hc, rfl⟩ := Option.map_eq_some_iff.mp htext
  rw [hc] at hes
  obtain ⟨e, he, rfl⟩ := Condition.exprs?_singleton hes
  have hread := Scope.read_parts hwalk hquote hplain hc he
  obtain ⟨first, rest, hparts, rfl⟩ := Condition.exprs?_of_combine hc he
  -- its parts behind the base
  have hshifted := Condition.exprs?_shiftAll base.values.length hparts
  rw [Condition.shiftAll_eq_map] at hshifted
  have hnumbers := Condition.numbers_map_shift base.values.length (Scope.parts_numbers hwalk name)
  have hcolumns : ∀ column ∈ (Condition.allLeaves ((scope.parts name none).map
      (Condition.shift base.values.length))).filterMap Condition.column?,
      Sql.isPlain column.2 = true := by
    rw [Condition.columns_map_shift, Scope.parts_columns hwalk]
    intro column hmem
    obtain ⟨p, hp, rfl⟩ := List.mem_map.mp hmem
    exact hplain p hp
  have hopen : config.placeholders = .question →
      Sql.openMarks (base.text config) = base.values.length := by
    intro hstyle
    rw [BaseCondition.text, hstyle]
    exact hmarks hstyle
  obtain ⟨text', htext', hread'⟩ :=
    Sql.read_guarded hguard hopen hquote hshifted hcolumns hnumbers
  refine ⟨_, text', _, hread, hguards.after.trans htext', hread', fun v => ?_⟩
  rw [List.map_cons, Expr.eval_guard, ← Expr.eval_shift, Expr.shift_foldl]
  rfl

/-- The query written with the base is led by it, if the plan without it
succeeds. -/
theorem Scope.plan_leads {s : Schema} {id : ModelId} {table : String} {scope : Scope} {d : Draft}
    {parts : List Condition} {order : List (String × SortOrder)} {groupBy : List String}
    (h : (scope.plan s ⟨id, table⟩).run (.start table none) = .ok ((parts, order, groupBy), d))
    (htable : s.table id = .ok table) {config : Config} {base : BaseCondition} {q q' : Query}
    (hq : q = Plan.query config
      { condition := Condition.combine .all parts
        values := d.values, joins := d.joins, order, groupBy, clauses := scope.clauses })
    (hq' : q' = Plan.query config
      { condition := Condition.combine .all
          (base.part :: parts.map (Condition.shift base.values.length))
        values := base.values ++ d.values, joins := d.joins, order, groupBy
        clauses := scope.clauses }) :
    base.Leads s config id scope q q' := by
  obtain ⟨hparts, hbase⟩ := Scope.plan_base_parts h (Draft.namedBy_nameAt s ⟨id, table⟩ d) base
  obtain ⟨-, hwalk⟩ := Scope.plan_leaves h (Draft.namedBy_nameAt s ⟨id, table⟩ d)
  have hnumbers := Scope.plan_numbers h
  have hregular := Scope.plan_regular h config.quoteTables
  have hcount : ((Condition.allLeaves parts).flatMap Condition.numbers).length
      = d.values.length := by
    rw [hnumbers, List.length_range']
  rw [← hcount] at hnumbers
  have hguards : base.Guards config (d.nameAt s ⟨id, table⟩) scope q q' :=
    Scope.parts_guards (hparts ▸ hbase) (by rw [hq, ← hparts]; rfl) (by rw [hq', hbase]; rfl)
  subst hq hq'
  constructor
  case condition =>
    refine ⟨_, .of_walk htable hwalk, hwalk.clauses config.quoteTables, hguards, _, rfl, ?_⟩
    rw [← hparts]
    refine ⟨?_, ?_, ?_, ?_⟩
    · rw [Condition.allHoles_template hregular, hcount]
      rfl
    · exact Condition.texts_eq_fillAll hregular hnumbers
    · exact Condition.texts_shift_eq_fillAll _ hregular hnumbers
    · intro hs hcolumns t ht
      obtain ⟨c, hc, rfl⟩ := List.mem_map.mp ht
      have hleaves := Scope.plan_noDollar h htable hs hcolumns config.quoteTables
      exact Condition.noDollar_template fun leaf hleaf =>
        hleaves leaf (Condition.mem_allLeaves hc hleaf)
  case reading =>
    intro hbuilt hquote hplain guard hguard hmarks text htext
    exact Scope.read_guarded hguards hwalk hbuilt hquote hplain hguard hmarks htext
  case plain =>
    intro hstyle
    rw [BaseCondition.text, hstyle]
    rfl
  case marks => exact fun hmarks => Sql.renumber_eq_fill config.placeholders hmarks
  all_goals rfl

/-- A base only adds a part at the front of the condition. With it a
filter fails as it does without it, or compiles to the same query led by
the base. -/
theorem Schema.compile_base (s : Schema) (config : Config) (id : ModelId) (scope : Scope)
    (base : BaseCondition) :
    (∀ f, s.compile config id scope (some base) = .error f
        ↔ s.compile config id scope none = .error f)
      ∧ ∀ q, s.compile config id scope none = .ok q →
          ∃ q', s.compile config id scope (some base) = .ok q'
            ∧ base.Leads s config id scope q q' := by
  cases htable : s.table id with
  | error f =>
      have hfails (base : Option BaseCondition) : s.compile config id scope base = .error f := by
        rw [Schema.compile, Schema.plan, htable]
        rfl
      rw [hfails, hfails]
      exact ⟨fun _ => Iff.rfl, fun q h => (by cases h)⟩
  | ok table =>
      rw [compile_base_run htable, compile_run htable]
      cases hrun : (scope.plan s ⟨id, table⟩).run (.start table none) with
      | error f => exact ⟨fun _ => Iff.rfl, fun q h => (by cases h)⟩
      | ok result =>
          obtain ⟨⟨parts, order, groupBy⟩, d⟩ := result
          refine ⟨fun f => ⟨fun h => (by cases h), fun h => (by cases h)⟩, fun q h => ?_⟩
          cases h
          exact ⟨_, rfl, Scope.plan_leads hrun htable rfl rfl⟩

/-- The news among the unsigned posts. What was a condition of its own is
one of two parts now, its placeholder the fourth. -/
theorem Schema.compile_base_unsigned :
    ∃ q q', Schema.forum.compile .postgres ⟨0⟩ (Step.unsigned.run [] .root).1 none = .ok q
      ∧ Schema.forum.compile .postgres ⟨0⟩ (Step.unsigned.run [] .root).1 (some .news) = .ok q'
      ∧ BaseCondition.news.Leads .forum .postgres ⟨0⟩ (Step.unsigned.run [] .root).1 q q'
      ∧ q.condition
        = some "NOT ((\"users\".name = $1) OR (\"boss_editor_posts\".name IS NOT NULL))"
      ∧ q'.condition = some ("(kind = $1 AND note <> 'why?' AND source IN ($2, $3)) AND "
        ++ "(NOT ((\"users\".name = $4) OR (\"boss_editor_posts\".name IS NOT NULL)))") := by
  have hcompile : ∃ q q', q.condition
          = some "NOT ((\"users\".name = $1) OR (\"boss_editor_posts\".name IS NOT NULL))"
      ∧ q'.condition = some ("(kind = $1 AND note <> 'why?' AND source IN ($2, $3)) AND "
        ++ "(NOT ((\"users\".name = $4) OR (\"boss_editor_posts\".name IS NOT NULL)))")
      ∧ Schema.forum.compile .postgres ⟨0⟩ (Step.unsigned.run [] .root).1 none = .ok q
      ∧ Schema.forum.compile .postgres ⟨0⟩ (Step.unsigned.run [] .root).1 (some .news)
        = .ok q' := ⟨_, _, by decide, by decide, rfl, rfl⟩
  obtain ⟨q, q', hq, hq', h, h'⟩ := hcompile
  obtain ⟨-, hleads⟩ :=
    Schema.compile_base .forum .postgres ⟨0⟩ (Step.unsigned.run [] .root).1 .news
  obtain ⟨q₁, h₁, hbase⟩ := hleads q h
  rw [h'] at h₁
  cases h₁
  exact ⟨q, q', h, h', hbase, hq, hq'⟩

end Criteria
