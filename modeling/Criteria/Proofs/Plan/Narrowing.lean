import Criteria.Proofs.Filter.Extension
import Criteria.Proofs.Plan.Binding
import Criteria.Proofs.Plan.Meaning
import Criteria.Proofs.Sql.Template
import Criteria.Proofs.Sql.Truth

/-!
# Extended filters are narrower

The main statement, `compile_narrows`: whatever calls extend a filter,
failed ones included, its query stays what it was at the front. Values,
joins and parts of the condition come in at the end only, so the extended
condition holds in fewer places. And what keeps a filter from compiling
keeps every extension of it from compiling.

The tree of a filter is planned before its columns, so what an extension
adds to the tree is planned after the tree that was there, from the draft
that this has left (`Node.planAll_append`). Then come the columns, and
they would see the difference between the two drafts, if they visited
associations. Those that do not are planned without the draft
(`Planner.Still`), so it is asked of the filter that is extended that its
orders and groupings visit none. The extension may order and group as it
likes.
-/

namespace Criteria

open Sql (Condition Connective Expr Truth)

/-! ## Planning without the draft -/

namespace Planner

variable {α β : Type} {x : Planner α} {f : α → Planner β}

/-- The computation neither looks at the draft nor changes it. -/
def Still (x : Planner α) : Prop := ∃ result : Except Failure α, x = liftM result

theorem Still.pure (a : α) : Still (Pure.pure a : Planner α) := ⟨.ok a, rfl⟩

theorem Still.lift (result : Except Failure α) : Still (liftM result : Planner α) := ⟨result, rfl⟩

theorem Still.bind (hx : Still x) (hf : ∀ a, Still (f a)) : Still (x >>= f) := by
  obtain ⟨result, rfl⟩ := hx
  cases result with
  | error e => exact ⟨.error e, rfl⟩
  | ok a =>
      obtain ⟨result, hresult⟩ := hf a
      exact ⟨result, hresult⟩

/-- What succeeds from one draft succeeds from any, with the same
result. -/
theorem Still.run_ok (h : Still x) {d d' : Draft} {a : α} (hrun : x.run d = .ok (a, d'))
    (d₁ : Draft) : x.run d₁ = .ok (a, d₁) := by
  obtain ⟨result, rfl⟩ := h
  obtain ⟨rfl, -⟩ := lift_ok.mp hrun
  exact lift_ok.mpr ⟨rfl, rfl⟩

end Planner

open Planner (Still)

section

variable {s : Schema}

theorem ColumnRef.plan_still (subject : Place) {column : ColumnRef} (h : column.visits = []) :
    Still (column.plan s subject) := by
  cases column with
  | literal sql => exact .pure sql
  | name column => exact .lift _
  | path associations column =>
      cases associations with
      | nil => exact Still.bind (.pure subject) fun _ => .lift _
      | cons association rest => cases h

theorem OrderEntry.planAll_still (subject : Place) {entries : List OrderEntry}
    (h : ∀ entry ∈ entries, entry.column.visits = []) :
    Still (OrderEntry.planAll s subject entries) := by
  induction entries with
  | nil => exact .pure []
  | cons entry rest ih =>
      have hentry := ColumnRef.plan_still (s := s) subject (h entry (List.mem_cons_self ..))
      have hrest := ih fun e he => h e (List.mem_cons_of_mem _ he)
      exact hentry.bind fun _ => hrest.bind fun _ => .pure _

theorem ColumnRef.planAll_still (subject : Place) {columns : List ColumnRef}
    (h : ∀ column ∈ columns, column.visits = []) :
    Still (ColumnRef.planAll s subject columns) := by
  induction columns with
  | nil => exact .pure []
  | cons column rest ih =>
      have hcolumn := ColumnRef.plan_still (s := s) subject (h column (List.mem_cons_self ..))
      have hrest := ih fun c hc => h c (List.mem_cons_of_mem _ hc)
      exact hcolumn.bind fun _ => hrest.bind fun _ => .pure _

end

/-! ## The scope inside its extension -/

section

variable {s : Schema} {id : ModelId} {scope scope' : Scope} {base : Option BaseCondition}

/-- If an extension is planned, so is the scope, and its draft is where the
extension goes on. -/
theorem Scope.Extended.plan {subject : Place} {d d' : Draft} {parts' : List Condition}
    {order' : List (String × SortOrder)} {groupBy' : List String} (hext : scope.Extended scope')
    (hlocal : ∀ column ∈ scope.columns, column.visits = [])
    (h : (scope'.plan s subject).run d = .ok ((parts', order', groupBy'), d')) :
    ∃ parts order groupBy d₁, (scope.plan s subject).run d = .ok ((parts, order, groupBy), d₁)
      ∧ d₁.values <+: d'.values ∧ d₁.joins <+: d'.joins := by
  obtain ⟨-, added, -, hgroup⟩ := hext.grows
  obtain ⟨⟨moreOrder, horder⟩, ⟨moreGroupBy, hgroupBy⟩⟩ := hext.clauses
  obtain ⟨_, d₂, htree, h₁⟩ := Planner.bind_ok.mp h
  obtain ⟨_, d₃, horders, h₂⟩ := Planner.bind_ok.mp h₁
  obtain ⟨_, d₄, hgroupings, h₃⟩ := Planner.bind_ok.mp h₂
  obtain ⟨-, rfl⟩ := Planner.pure_ok.mp h₃
  have horderWalk := OrderEntry.planAll_walk horders
  have hgroupByWalk := ColumnRef.planAll_walk hgroupings
  -- the tree that was there, planned first
  rw [hgroup, Node.planAll_append] at htree
  obtain ⟨parts, d₁, hparts, htree₁⟩ := Planner.bind_ok.mp htree
  obtain ⟨more, _, hmore, htree₂⟩ := Planner.bind_ok.mp htree₁
  obtain ⟨-, rfl⟩ := Planner.pure_ok.mp htree₂
  have hreach : subject.reach s d₁ [] = some subject := rfl
  have haddedWalk := Node.planAll_walk hreach hmore
  have hwalk := (haddedWalk.append horderWalk).append hgroupByWalk
  -- its columns, which do not notice what was planned in between
  rw [← horder, OrderEntry.planAll_append] at horders
  obtain ⟨order, _, horders₁, -⟩ := Planner.bind_ok.mp horders
  rw [← hgroupBy, ColumnRef.planAll_append] at hgroupings
  obtain ⟨groupBy, _, hgroupings₁, -⟩ := Planner.bind_ok.mp hgroupings
  have horderRun := (OrderEntry.planAll_still subject fun entry hentry =>
    hlocal _ (List.mem_append_left _ (List.mem_map_of_mem hentry))).run_ok horders₁ d₁
  have hgroupByRun := (ColumnRef.planAll_still subject fun column hcolumn =>
    hlocal _ (List.mem_append_right _ hcolumn)).run_ok hgroupings₁ d₁
  refine ⟨parts, order, groupBy, d₁, ?_, hwalk.values_prefix, hwalk.joins⟩
  exact Planner.bind_ok.mpr ⟨_, _, hparts, Planner.bind_ok.mpr ⟨_, _, horderRun,
    Planner.bind_ok.mpr ⟨_, _, hgroupByRun, rfl⟩⟩⟩

theorem Schema.plan_extended {plan' : Plan} (hext : scope.Extended scope')
    (hlocal : ∀ column ∈ scope.columns, column.visits = [])
    (h : s.plan id scope' base = .ok plan') :
    ∃ plan, s.plan id scope base = .ok plan
      ∧ plan.values <+: plan'.values ∧ plan.joins <+: plan'.joins := by
  obtain ⟨table, htable, h₁⟩ := except_bind_ok.mp h
  obtain ⟨⟨⟨parts', order', groupBy'⟩, d'⟩, hrun', h₂⟩ := except_bind_ok.mp h₁
  cases h₂
  obtain ⟨parts, order, groupBy, d, hrun, hvalues, hjoins⟩ := hext.plan hlocal hrun'
  exact ⟨_, except_bind_ok.mpr ⟨table, htable, except_bind_ok.mpr ⟨_, hrun, rfl⟩⟩, hvalues,
    hjoins⟩

/-! ## Parts -/

theorem Node.allParts_append (name : List String → String) (path : List String)
    (outer : Connective) (xs ys : List Node) (bound : Nat) :
    ∃ more, Node.allParts name path bound outer (xs ++ ys)
      = Node.allParts name path bound outer xs ++ more := by
  induction xs generalizing bound with
  | nil => exact ⟨_, rfl⟩
  | cons x xs ih =>
      obtain ⟨more, hmore⟩ := ih (bound + ((x.sites path).flatMap Site.operands).length)
      exact ⟨more, by rw [List.cons_append, Node.allParts, hmore, Node.allParts,
        List.append_assoc]⟩

/-- The parts of an extension are those of the scope and others behind
them, where paths go by the same names. -/
theorem Scope.Extended.parts (h : scope.Extended scope') (name : List String → String)
    (base : Option BaseCondition) :
    scope.parts name base <+: scope'.parts name base := by
  obtain ⟨-, added, -, hgroup⟩ := h.grows
  rw [Scope.parts, Scope.parts, hgroup]
  refine (List.prefix_append_right_inj _).mpr ?_
  obtain ⟨more, hmore⟩ := Node.allParts_append name [] scope.group.connective
    scope.group.children added ((base.map (·.values)).getD []).length
  exact ⟨more, hmore.symm⟩

theorem Scope.Extended.restrictions (h : scope.Extended scope') {p : List String × Restriction}
    (hp : p ∈ scope.restrictions) : p ∈ scope'.restrictions := by
  obtain ⟨-, added, -, hgroup⟩ := h.grows
  rw [Scope.restrictions, Scope.treeSites, hgroup, Node.allSites_append, List.filterMap_append]
  exact List.mem_append_left _ hp

/-! ## Narrower queries -/

/-- The condition of a plan without a base can be read, whatever naming of
the paths the finished draft bears out. -/
theorem Schema.plan_reads {config : Config} {plan : Plan} (hbuilt : scope.Built)
    (hquote : config.quoteTables = true)
    (hplain : ∀ p ∈ scope.restrictions, Sql.isPlain p.2.column = true)
    (h : s.plan id scope none = .ok plan) {c : Condition} (hc : plan.condition = some c) :
    ∃ e, c.expr? = some e ∧ Sql.read (c.text config) = some e := by
  obtain ⟨table, d, -, hwalk, -, -, hcondition⟩ := Schema.plan_parts h
  have hname := hcondition _ (Draft.namedBy_nameAt s ⟨id, table⟩ d)
  obtain ⟨es, hes, -⟩ := Scope.parts_meaning hbuilt hwalk (d.nameAt s ⟨id, table⟩)
  rw [← hname, hc] at hes
  obtain ⟨e, he, -⟩ := Condition.exprs?_singleton hes
  exact ⟨e, he, Scope.read_parts hwalk hquote hplain (hname.symm.trans hc) he⟩

/-- What an extension makes of a query: `q` is the query of the scope, `q'`
that of its extension. -/
structure Scope.Narrows (s : Schema) (config : Config) (id : ModelId) (base : Option BaseCondition)
    (scope scope' : Scope) (q q' : Query) : Prop where
  bindValues : q.bindValues <+: q'.bindValues
  joins : q.joins <+: q'.joins
  /-- Under the names that the joins of the extension give to the paths,
  both conditions are their parts joined, and the parts of the scope come
  first. Wherever the condition of the extension holds, so does that of
  the scope, if there is one. -/
  condition : ∃ name, PathNames s id scope' name
    ∧ List.Forall₂ (Visit.Clause s id config.quoteTables name) (Visit.firsts scope'.visits)
        q'.joins
    ∧ scope.parts name base <+: scope'.parts name base
    ∧ q.condition = Sql.conjoined ((scope.parts name base).map (Condition.text config))
    ∧ q'.condition = Sql.conjoined ((scope'.parts name base).map (Condition.text config))
    ∧ ∀ given v,
        (Condition.combine .all (scope'.parts name base)).bind (Condition.truth? given v)
          = some .yes →
        scope.parts name base = []
          ∨ (Condition.combine .all (scope.parts name base)).bind (Condition.truth? given v)
            = some .yes
  /-- The same of the texts as they are read, where no base is in the
  way. -/
  reading : base = none → config.quoteTables = true →
    (∀ p ∈ scope'.restrictions, Sql.isPlain p.2.column = true) →
    ∀ text, q.condition = some text → ∃ text' e e', q'.condition = some text'
      ∧ Sql.read text = some e ∧ Sql.read text' = some e'
      ∧ ∀ v, e'.eval v = .yes → e.eval v = .yes

/-- Wherever the condition of an extension holds, so does that of the
scope, if there is one. -/
theorem Scope.Extended.holds (h : scope.Extended scope') {name : List String → String}
    {given : Truth} {v : Sql.Atom → Truth}
    (hyes : (Condition.combine .all (scope'.parts name base)).bind (Condition.truth? given v)
      = some .yes) :
    scope.parts name base = []
      ∨ (Condition.combine .all (scope.parts name base)).bind (Condition.truth? given v)
        = some .yes := by
  obtain ⟨more, hmore⟩ := h.parts name base
  rw [← hmore] at hyes
  by_cases hnone : scope.parts name base = []
  · exact .inl hnone
  · exact .inr (Condition.combine_all_yes hyes hnone)

/-- The plan of a scope beside that of its extension, under the names that
the joins of the extension give to the paths. -/
theorem Schema.plan_narrows {plan' : Plan} (hext : scope.Extended scope')
    (hlocal : ∀ column ∈ scope.columns, column.visits = [])
    (h : s.plan id scope' base = .ok plan') (quote : Bool) :
    ∃ plan name, s.plan id scope base = .ok plan
      ∧ plan.values <+: plan'.values ∧ plan.joins <+: plan'.joins
      ∧ PathNames s id scope' name
      ∧ List.Forall₂ (Visit.Clause s id quote name) (Visit.firsts scope'.visits)
          (plan'.joins.map fun e => Sql.Hop.clause quote e.kind e.hops)
      ∧ plan.condition = Condition.combine .all (scope.parts name base)
      ∧ plan'.condition = Condition.combine .all (scope'.parts name base) := by
  obtain ⟨plan, hplan, hvalues, hjoins⟩ := Schema.plan_extended hext hlocal h
  obtain ⟨table', d', htable', hwalk', -, hjoins', hcondition'⟩ := Schema.plan_parts h
  obtain ⟨table, d, htable, -, -, hjoins₁, hcondition⟩ := Schema.plan_parts hplan
  obtain rfl := Except.ok.inj (htable.symm.trans htable')
  -- the draft of the extension names the paths, and the one before agrees
  have hname' := Draft.namedBy_nameAt s ⟨id, table⟩ d'
  have hname : d.NamedBy s ⟨id, table⟩ (d'.nameAt s ⟨id, table⟩) :=
    hname'.mono (hjoins₁ ▸ hjoins' ▸ hjoins)
  have hclauses := hwalk'.clauses quote
  rw [← hjoins'] at hclauses
  exact ⟨plan, _, hplan, hvalues, hjoins, .of_walk htable hwalk', hclauses, hcondition _ hname,
    hcondition' _ hname'⟩

/-- The texts of the two conditions, as they are read. -/
theorem Schema.plan_narrows_read {config : Config} {plan plan' : Plan} {c : Condition}
    {name : List String → String} (hbuilt : scope.Built) (hext : scope.Extended scope')
    (hquote : config.quoteTables = true)
    (hplain : ∀ p ∈ scope'.restrictions, Sql.isPlain p.2.column = true)
    (hplan : s.plan id scope none = .ok plan) (hplan' : s.plan id scope' none = .ok plan')
    (hcondition : plan.condition = Condition.combine .all (scope.parts name none))
    (hcondition' : plan'.condition = Condition.combine .all (scope'.parts name none))
    (hc : plan.condition = some c) :
    ∃ c' e e', plan'.condition = some c' ∧ Sql.read (c.text config) = some e
      ∧ Sql.read (c'.text config) = some e' ∧ ∀ v, e'.eval v = .yes → e.eval v = .yes := by
  have hsome : scope.parts name none ≠ [] := by
    intro hnil
    rw [hcondition, hnil] at hc
    cases hc
  have hplanned : ∃ c', plan'.condition = some c' := by
    obtain ⟨more, hmore⟩ := hext.parts name none
    rw [hcondition', ← hmore]
    exact Condition.combine_some (by simp [hsome])
  obtain ⟨c', hc'⟩ := hplanned
  have hplain₁ : ∀ p ∈ scope.restrictions, Sql.isPlain p.2.column = true :=
    fun p hp => hplain p (hext.restrictions hp)
  obtain ⟨e, he, hread⟩ := Schema.plan_reads hbuilt hquote hplain₁ hplan hc
  obtain ⟨e', he', hread'⟩ := Schema.plan_reads (hext.built hbuilt) hquote hplain hplan' hc'
  refine ⟨c', e, e', hc', hread, hread', fun v hv => ?_⟩
  have hyes : (Condition.combine .all (scope'.parts name none)).bind
      (Condition.truth? .unknown v) = some .yes := by
    rw [← hcondition', hc', Option.bind_some, Condition.truth?_expr he', hv]
  rcases hext.holds hyes with hnil | hholds
  · exact absurd hnil hsome
  · rw [← hcondition, hc, Option.bind_some, Condition.truth?_expr he] at hholds
    exact Option.some.inj hholds

/-- If the extension of a filter compiles, so does the filter, and the
extension only narrows it. -/
theorem Schema.compile_narrows {config : Config} {q' : Query} (hbuilt : scope.Built)
    (hext : scope.Extended scope') (hlocal : ∀ column ∈ scope.columns, column.visits = [])
    (h : s.compile config id scope' base = .ok q') :
    ∃ q, s.compile config id scope base = .ok q
      ∧ Scope.Narrows s config id base scope scope' q q' := by
  obtain ⟨plan', hplan', rfl⟩ := Schema.compile_ok h
  obtain ⟨plan, name, hplan, hvalues, hjoins, hnames, hclauses, hcondition, hcondition'⟩ :=
    Schema.plan_narrows hext hlocal hplan' config.quoteTables
  have hcompile : s.compile config id scope base = .ok (plan.query config) :=
    except_bind_ok.mpr ⟨plan, hplan, rfl⟩
  refine ⟨plan.query config, hcompile, hvalues, hjoins.map _, ?_, ?_⟩
  · refine ⟨name, hnames, hclauses, hext.parts name base, ?_, ?_, fun _ _ => hext.holds⟩
    · rw [← Condition.combine_text, ← hcondition]
      rfl
    · rw [← Condition.combine_text, ← hcondition']
      rfl
  · rintro rfl hquote hplain text htext
    obtain ⟨c, hc, rfl⟩ := Option.map_eq_some_iff.mp htext
    obtain ⟨c', e, e', hc', hread, hread', hholds⟩ := Schema.plan_narrows_read hbuilt hext hquote
      hplain hplan hplan' hcondition hcondition' hc
    have htext' : (plan'.query config).condition = some (c'.text config) :=
      Option.map_eq_some_iff.mpr ⟨c', hc', rfl⟩
    exact ⟨c'.text config, e, e', htext', hread, hread', hholds⟩

end

/-- Posts by Ann, in the order of their titles. -/
def Step.annsPosts : List Step :=
  [.having "author" .inner [.restrict "name" false [.compare .equal (.value (.string "Ann"))]],
    .orderBy (.name "title") (.settled .asc)]

/-- Calls that go on from there. One is refused inside a group, which is
lost with it, and one orders by a joined table. -/
def Step.further : List Step :=
  [.attempt [.group .any false [.restrict "id" false [.isNull], .limit (.literal 1) none]],
    .having "editor" .left [.restrict "age" true [.compare .less (.value (.int 18))]],
    .having "author" .left [.restrict "name" false [.like (.value (.string "A%"))]],
    .orderBy (.path ["editor", "boss"] "name") (.settled .desc),
    .fail { cause := .emptyColumn "order" }]

theorem Schema.compile_narrows_annsPosts :
    ∃ q q', Schema.forum.compile .postgres ⟨0⟩ (Step.runAll [] Step.annsPosts .root).1
          (some .news) = .ok q
      ∧ Schema.forum.compile .postgres ⟨0⟩
          (Step.runAll [] Step.further (Step.runAll [] Step.annsPosts .root).1).1
          (some .news) = .ok q'
      ∧ Scope.Narrows .forum .postgres ⟨0⟩ (some .news) (Step.runAll [] Step.annsPosts .root).1
          (Step.runAll [] Step.further (Step.runAll [] Step.annsPosts .root).1).1 q q'
      ∧ q'.joins.length = q.joins.length + 2 := by
  have hbuilt : (Step.runAll [] Step.annsPosts .root).1.Built :=
    (Scope.Extended.refl.runAll [] Step.annsPosts).built .root
  have hext := (Scope.Extended.refl (s := (Step.runAll [] Step.annsPosts .root).1)).runAll []
    Step.further
  have hlocal : ∀ column ∈ (Step.runAll [] Step.annsPosts .root).1.columns,
      column.visits = [] := by decide
  have hcompile : ∃ q', Schema.forum.compile .postgres ⟨0⟩
      (Step.runAll [] Step.further (Step.runAll [] Step.annsPosts .root).1).1 (some .news)
        = .ok q' := ⟨_, rfl⟩
  obtain ⟨q', h'⟩ := hcompile
  obtain ⟨q, h, hnarrows⟩ := Schema.compile_narrows hbuilt hext hlocal h'
  exact ⟨q, q', h, h', hnarrows, by cases h; cases h'; rfl⟩

end Criteria
