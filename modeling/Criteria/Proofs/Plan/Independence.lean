import Criteria.Proofs.Plan.Binding
import Criteria.Proofs.Plan.Compositional

/-!
# Values do not show in the text

What a filter compares its columns with never reaches the text of a
statement. The shape of a filter is what is left of it without its
operands (`Scope.shape`). The main statement, `compile_shape`: two filters
of one shape, perhaps after bases of one text and equally many values,
that both compile come to queries that differ in their bind values at
most, and have equally many of these.

The proof follows two runs of the planner side by side. They start from
drafts that agree in everything but the values themselves
(`Draft.Alike`), and each function of the planner keeps that and yields
the same in both (`Planner.Alike`): planning asks how many values are
bound and which tables are joined, and an operator alone settles how many
values it binds.
-/

namespace Criteria

open Sql (Condition Connective JoinKind TestForm)

/-! ## Shapes -/

/-- The restriction without what it compares its column with. -/
def Restriction.shape (r : Restriction) : Restriction := { r with operand := none }

mutual

def Node.shape : Node → Node
  | .restriction r => .restriction r.shape
  | .group ⟨connective, negated, children⟩ =>
    .group ⟨connective, negated, Node.shapes children⟩
  | .join association kind ⟨connective, negated, children⟩ =>
    .join association kind ⟨connective, negated, Node.shapes children⟩
termination_by structural n => n

def Node.shapes : List Node → List Node
  | [] => []
  | child :: rest => child.shape :: Node.shapes rest
termination_by structural l => l

end

/-- The filter without the operands of its restrictions. -/
def Scope.shape (scope : Scope) : Scope :=
  { scope with group := { scope.group with children := Node.shapes scope.group.children } }

/-- What a base looks like from outside: its text, and how many values it
has. -/
def BaseCondition.shape (base : BaseCondition) : String × Nat :=
  (base.condition, base.values.length)

/-! ## Drafts that agree but for values -/

/-- As many values are bound, and the same is joined under the same
names. -/
structure Draft.Alike (d e : Draft) : Prop where
  bound : d.bound = e.bound
  joins : d.joins = e.joins
  names : d.names = e.names

namespace Draft.Alike

variable {d e : Draft}

theorem bind (h : d.Alike e) {values values' : List Value}
    (hlength : values.length = values'.length) : (d.bind values).Alike (e.bind values') where
  bound := by rw [Draft.bound_bind, Draft.bound_bind, h.bound, hlength]
  joins := h.joins
  names := h.names

theorem join (h : d.Alike e) (entry : JoinEntry) (names : Names) :
    (d.join entry names).Alike (e.join entry names) where
  bound := h.bound
  joins := by rw [Draft.join, Draft.join, h.joins]
  names := rfl

theorem entry? (h : d.Alike e) (owner association : String) :
    d.entry? owner association = e.entry? owner association := by
  rw [Draft.entry?, Draft.entry?, h.joins]

theorem start (table : String) {base base' : Option BaseCondition}
    (h : base.map (·.shape) = base'.map (·.shape)) :
    (Draft.start table base).Alike (Draft.start table base') where
  bound := by
    cases base with
    | none =>
        cases base' with
        | none => rfl
        | some b' => cases h
    | some b =>
        cases base' with
        | none => cases h
        | some b' => exact congrArg Prod.snd (Option.some.inj h)
  joins := rfl
  names := rfl

end Draft.Alike

/-! ## Runs side by side -/

namespace Planner

variable {α β : Type}

/-- Where both succeed on drafts that agree but for values, they have the
same result and leave drafts that agree. -/
def Alike (x y : Planner α) : Prop :=
  ∀ ⦃d e : Draft⦄, d.Alike e → ∀ ⦃a b : α⦄ ⦃d' e' : Draft⦄,
    x.run d = .ok (a, d') → y.run e = .ok (b, e') → a = b ∧ d'.Alike e'

theorem Alike.pure (a : α) : Alike (Pure.pure a : Planner α) (Pure.pure a) := by
  intro d e halike a₁ b₁ d' e' hx hy
  obtain ⟨rfl, rfl⟩ := Planner.pure_ok.mp hx
  obtain ⟨rfl, rfl⟩ := Planner.pure_ok.mp hy
  exact ⟨rfl, halike⟩

theorem Alike.lift (x : Except Failure α) : Alike (liftM x : Planner α) (liftM x) := by
  intro d e halike a b d' e' hx hy
  obtain ⟨ha, rfl⟩ := Planner.lift_ok.mp hx
  obtain ⟨hb, rfl⟩ := Planner.lift_ok.mp hy
  exact ⟨Except.ok.inj (ha.symm.trans hb), halike⟩

theorem Alike.bind {x y : Planner α} {f g : α → Planner β} (hxy : x.Alike y)
    (hfg : ∀ a, (f a).Alike (g a)) : (x >>= f).Alike (y >>= g) := by
  intro d e halike a b d' e' hx hy
  obtain ⟨a₁, d₁, hx₁, hf⟩ := Planner.bind_ok.mp hx
  obtain ⟨b₁, e₁, hy₁, hg⟩ := Planner.bind_ok.mp hy
  obtain ⟨rfl, halike₁⟩ := hxy halike hx₁ hy₁
  exact hfg a₁ halike₁ hf hg

end Planner

/-! ## The functions of the planner -/

theorem Sql.TestForm.length_numbers {f f' : TestForm} (h : f.operator = f'.operator) :
    f.numbers.length = f'.numbers.length := by
  cases f <;> cases f' <;> cases h <;> rfl

theorem Sql.TestForm.eq_of_numbers {f f' : TestForm} (h : f.operator = f'.operator)
    (hnumbers : f.numbers = f'.numbers) : f = f' := by
  cases f <;> cases f' <;> cases h <;> cases hnumbers <;> rfl

/-- The operator settles the form of a test and how many values it has. -/
theorem Restriction.form_shape {r r' : Restriction} {bound : Nat} {f f' : TestForm}
    {values values' : List Value} (hoperator : r.operator = r'.operator)
    (h : r.form bound = .ok (f, values)) (h' : r'.form bound = .ok (f', values')) :
    f = f' ∧ values.length = values'.length := by
  obtain ⟨hop, -, hnumbers⟩ := Restriction.form_ok h
  obtain ⟨hop', -, hnumbers'⟩ := Restriction.form_ok h'
  have hsame : f.operator = f'.operator := by
    rw [hop, hop'] at hoperator
    exact Option.some.inj hoperator
  have hlength : values.length = values'.length := by
    have hcount := Sql.TestForm.length_numbers hsame
    rwa [hnumbers, hnumbers', List.length_range', List.length_range'] at hcount
  refine ⟨Sql.TestForm.eq_of_numbers hsame ?_, hlength⟩
  rw [hnumbers, hnumbers', hlength]

section

variable {s : Schema}

theorem Restriction.plan_alike (here : Place) {r r' : Restriction} (h : r.shape = r'.shape) :
    Planner.Alike (r.plan s here) (r'.plan s here) := by
  intro d e halike part part' d' e' hr hr'
  obtain ⟨f, values, hf, rfl, rfl⟩ := Restriction.plan_ok hr
  obtain ⟨f', values', hf', rfl, rfl⟩ := Restriction.plan_ok hr'
  simp only [Restriction.shape, Restriction.mk.injEq] at h
  obtain ⟨hcolumn, hnegated, hoperator, -⟩ := h
  rw [← halike.bound] at hf'
  obtain ⟨rfl, hlength⟩ := Restriction.form_shape hoperator hf hf'
  exact ⟨by rw [hcolumn, hnegated], halike.bind hlength⟩

theorem Place.enter_alike (owner : Place) (name : String) (kind : JoinKind) :
    Planner.Alike (owner.enter s name kind) (owner.enter s name kind) := by
  intro d e halike target target' d' e' h h'
  obtain ⟨a, ha, -, hd⟩ := Place.enter_ok h
  obtain ⟨a', ha', -, he⟩ := Place.enter_ok h'
  obtain rfl := Except.ok.inj (ha.symm.trans ha')
  rw [← halike.entry?] at he
  rcases hd with ⟨entry, hentry, rfl, rfl⟩ | ⟨hnone, entry, names, hnew, rfl, rfl⟩
  · rcases he with ⟨entry', hentry', rfl, rfl⟩ | ⟨hnone', -⟩
    · obtain rfl := Option.some.inj (hentry.symm.trans hentry')
      exact ⟨rfl, halike⟩
    · rw [hentry] at hnone'
      cases hnone'
  · rcases he with ⟨entry', hentry', -⟩ | ⟨-, entry', names', hnew', rfl, rfl⟩
    · rw [hnone] at hentry'
      cases hentry'
    · rw [← halike.names, hnew] at hnew'
      cases hnew'
      exact ⟨rfl, halike.join entry names⟩

mutual

theorem Node.plan_alike (outer : Connective) (here : Place) : ∀ {x y : Node},
    x.shape = y.shape → Planner.Alike (x.plan s outer here) (y.plan s outer here)
  | .restriction r, .restriction r', h => by
      have hr : r.shape = r'.shape := Node.restriction.inj h
      exact (Restriction.plan_alike here hr).bind fun _ => .pure _
  | .group ⟨connective, negated, children⟩, .group ⟨connective', negated', children'⟩, h => by
      simp only [Node.shape, Node.group.injEq, GroupOf.mk.injEq] at h
      obtain ⟨rfl, rfl, hchildren⟩ := h
      refine (Node.planAll_alike connective here hchildren).bind fun parts => ?_
      split <;> exact .pure _
  | .join association kind ⟨connective, negated, children⟩,
      .join association' kind' ⟨connective', negated', children'⟩, h => by
      simp only [Node.shape, Node.join.injEq, GroupOf.mk.injEq] at h
      obtain ⟨rfl, rfl, rfl, rfl, hchildren⟩ := h
      refine (Place.enter_alike here association kind).bind fun target => ?_
      refine (Node.planAll_alike connective target hchildren).bind fun parts => ?_
      split <;> exact .pure _
  | .restriction _, .group _, h => nomatch h
  | .restriction _, .join .., h => nomatch h
  | .group _, .restriction _, h => nomatch h
  | .group _, .join .., h => nomatch h
  | .join .., .restriction _, h => nomatch h
  | .join .., .group _, h => nomatch h

theorem Node.planAll_alike (outer : Connective) (here : Place) : ∀ {xs ys : List Node},
    Node.shapes xs = Node.shapes ys →
      Planner.Alike (Node.planAll s outer here xs) (Node.planAll s outer here ys)
  | [], [], _ => .pure _
  | x :: xs, y :: ys, h => by
      obtain ⟨hhead, htail⟩ := List.cons.inj h
      refine (Node.plan_alike outer here hhead).bind fun parts => ?_
      exact (Node.planAll_alike outer here htail).bind fun others => .pure _
  | [], _ :: _, h => nomatch h
  | _ :: _, [], h => nomatch h

end

theorem alike_compositional : Planner.Compositional s fun x => x.Alike x where
  pure := Planner.Alike.pure
  bind := Planner.Alike.bind
  column _ _ := .lift _
  enter := Place.enter_alike

theorem Scope.plan_alike (subject : Place) {scope scope' : Scope} (h : scope.shape = scope'.shape) :
    Planner.Alike (scope.plan s subject) (scope'.plan s subject) := by
  obtain ⟨kind, ⟨connective, negated, children⟩, clauses⟩ := scope
  obtain ⟨kind', ⟨connective', negated', children'⟩, clauses'⟩ := scope'
  simp only [Scope.shape, Scope.mk.injEq, GroupOf.mk.injEq] at h
  obtain ⟨-, ⟨rfl, -, hchildren⟩, rfl⟩ := h
  refine (Node.planAll_alike connective subject hchildren).bind fun parts => ?_
  refine (alike_compositional.order subject clauses.order).bind fun order => ?_
  exact (alike_compositional.columns subject clauses.groupBy).bind fun groupBy => .pure _

end

/-! ## Queries -/

/-- The part of a base in a condition is made of its text and the number
of its values. -/
theorem BaseCondition.part_shape {base base' : Option BaseCondition}
    (h : base.map (·.shape) = base'.map (·.shape)) :
    base.map (·.part) = base'.map (·.part) := by
  have hpart := congrArg
    (Option.map fun shape : String × Nat => Condition.given shape.1 0 shape.2) h
  rwa [Option.map_map, Option.map_map] at hpart

/-- Two filters of one shape that both compile, after bases that look the
same, come to the same query but for the bind values, and to the same
statement. -/
theorem Schema.compile_shape {s : Schema} {config : Config} {id : ModelId} {scope scope' : Scope}
    {base base' : Option BaseCondition} {q q' : Query} (hscope : scope.shape = scope'.shape)
    (hbase : base.map (·.shape) = base'.map (·.shape))
    (h : s.compile config id scope base = .ok q)
    (h' : s.compile config id scope' base' = .ok q') :
    q' = { q with bindValues := q'.bindValues }
      ∧ q'.bindValues.length = q.bindValues.length
      ∧ ∀ table, q'.selectSql table = q.selectSql table := by
  obtain ⟨table, parts, order, groupBy, d, htable, hrun, rfl⟩ := Schema.compile_planned h
  obtain ⟨table', parts', order', groupBy', d', htable', hrun', rfl⟩ :=
    Schema.compile_planned h'
  obtain rfl := Except.ok.inj (htable.symm.trans htable')
  obtain ⟨hresult, halike⟩ := Scope.plan_alike ⟨id, table⟩ hscope (.start table hbase) hrun hrun'
  cases hresult
  have hclauses : scope.clauses = scope'.clauses :=
    show scope.shape.clauses = scope'.shape.clauses from congrArg Scope.clauses hscope
  have hquery : ∀ values, Plan.query config
        { condition := Condition.combine .all ((base'.map (·.part)).toList ++ parts)
          values, joins := d'.joins, order, groupBy, clauses := scope'.clauses }
      = Plan.query config
        { condition := Condition.combine .all ((base.map (·.part)).toList ++ parts)
          values, joins := d.joins, order, groupBy, clauses := scope.clauses } := by
    intro values
    rw [BaseCondition.part_shape hbase, halike.joins, hclauses]
  rw [hquery]
  exact ⟨rfl, halike.bound.symm, fun _ => rfl⟩

/-- Posts that are like something, and neither by some authors nor edited
by somebody outside a range, by their editors. -/
def Scope.signed (args : List Value) : Scope :=
  (Step.runAll args [
    .restrict "title" false [.like (.arg 0)],
    .group .any true [
      .having "author" .inner [.restrict "name" false [.inList (.arg 1)]],
      .having "editor" .left [.restrict "age" true [.between (.list [.arg 2, .arg 3])]]],
    .orderBy (.path ["editor"] "name") (.settled .desc)] .root).1

/-- The same base with other values. -/
def BaseCondition.rumours : BaseCondition :=
  { BaseCondition.news with values := [.string "$1", .null, .json (.string "; --")] }

/-- The same body run on other arguments, which look like anything but
values. -/
theorem Schema.compile_shape_signed :
    ∃ q q', Schema.forum.compile .postgres ⟨0⟩
          (.signed [.string "a%", .list [.string "Ann"], .int 18, .int 65]) (some .news) = .ok q
      ∧ Schema.forum.compile .postgres ⟨0⟩
          (.signed [.null, .list [], .string "' OR 1 = 1 --", .list [.string "$9 ?"]])
          (some .rumours) = .ok q'
      ∧ q' = { q with bindValues := q'.bindValues }
      ∧ q'.bindValues.length = q.bindValues.length
      ∧ q'.selectSql "posts" = q.selectSql "posts" := by
  have hcompile : ∃ q q', Schema.forum.compile .postgres ⟨0⟩
          (.signed [.string "a%", .list [.string "Ann"], .int 18, .int 65]) (some .news) = .ok q
      ∧ Schema.forum.compile .postgres ⟨0⟩
          (.signed [.null, .list [], .string "' OR 1 = 1 --", .list [.string "$9 ?"]])
          (some .rumours) = .ok q' := ⟨_, _, rfl, rfl⟩
  obtain ⟨q, q', h, h'⟩ := hcompile
  have hscope : (Scope.signed [.string "a%", .list [.string "Ann"], .int 18, .int 65]).shape
      = (Scope.signed [.null, .list [], .string "' OR 1 = 1 --", .list [.string "$9 ?"]]).shape :=
    rfl
  have hbase : (some BaseCondition.news).map (·.shape)
      = (some BaseCondition.rumours).map (·.shape) := rfl
  obtain ⟨hquery, hlength, hsql⟩ := Schema.compile_shape hscope hbase h h'
  exact ⟨q, q', h, h', hquery, hlength, hsql "posts"⟩

end Criteria
