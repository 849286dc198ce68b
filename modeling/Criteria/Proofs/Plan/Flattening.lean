import Criteria.Proofs.Plan.Joins

/-!
# Flat trees

Some nesting makes no difference. A group may give way to its children
where its parent has the same connective, and two neighbours that join one
association may be one join (`Node.Flattens`). The main statement,
`Schema.compile_flattened`, is about one such change, however deep in the
tree: the filter compiles to the same query, or fails with the same error.

Two subtrees that are the same for the planner are the same in any
surroundings, since planning goes over a tree part by part. So there is
something to show at the place of the change only. For joins that is that
the second of them comes to the place of the first and adds nothing
(`Place.enter_again`).
-/

namespace Criteria

open Sql (Condition Connective JoinKind)

/-- One step towards a flat tree, in a list of children under a
connective. -/
inductive Node.Flattens : Connective → List Node → List Node → Prop
  /-- A group under its own connective gives way to its children. -/
  | splice (connective : Connective) (children : List Node) :
      Flattens connective [.group ⟨connective, false, children⟩] children
  /-- Two joins of one association become one, of the first one's kind. The
  bodies are of one connective, as all bodies are that calls have built. -/
  | merge (association : String) (kind kind' : JoinKind) (connective : Connective)
      (negated negated' : Bool) (xs ys : List Node) :
      Flattens .all
        [.join association kind ⟨connective, negated, xs⟩,
          .join association kind' ⟨connective, negated', ys⟩]
        [.join association kind ⟨connective, negated, xs ++ ys⟩]
  | among {outer : Connective} {xs ys : List Node} (before after : List Node)
      (h : Flattens outer xs ys) : Flattens outer (before ++ xs ++ after) (before ++ ys ++ after)
  | inGroup {connective : Connective} {xs ys : List Node} (outer : Connective) (negated : Bool)
      (h : Flattens connective xs ys) :
      Flattens outer [.group ⟨connective, negated, xs⟩] [.group ⟨connective, negated, ys⟩]
  | inJoin {connective : Connective} {xs ys : List Node} (outer : Connective)
      (association : String) (kind : JoinKind) (negated : Bool) (h : Flattens connective xs ys) :
      Flattens outer [.join association kind ⟨connective, negated, xs⟩]
        [.join association kind ⟨connective, negated, ys⟩]

section

variable {s : Schema} {here owner target : Place} {d d' d'' : Draft}

/-! ## Entering again -/

/-- An association that was entered before leads to the same place, without
any change to the draft. -/
theorem Place.enter_again {name : String} {kind : JoinKind}
    (h : (owner.enter s name kind).run d = .ok (target, d')) (hjoins : d'.joins <+: d''.joins)
    (kind' : JoinKind) : (owner.enter s name kind').run d'' = .ok (target, d'') := by
  have hhere : owner.reach s d [] = some owner := rfl
  have hreach : owner.reach s d' [name] = some target := Place.enter_reach hhere h
  obtain ⟨a, e, ha, he, htarget⟩ := Place.reach_cons.mp (Place.reach_mono hjoins hreach)
  obtain rfl := Option.some.inj htarget
  have hhaving : whileHaving (s.association owner.model name) = .ok a := whileHaving_eq_ok.mpr ha
  have hentry : d''.entry? owner.label a.name = some e := by rw [Schema.association_name ha, he]
  simp only [Place.enter_run, hhaving, bind, Except.bind, hentry]

theorem Node.planAll_joins {outer : Connective} {nodes : List Node} {parts : List Condition}
    (h : (Node.planAll s outer here nodes).run d = .ok (parts, d')) : d.joins <+: d'.joins := by
  have hhere : here.reach s d [] = some here := rfl
  exact (Node.planAll_walk hhere h).joins

/-- Whatever adds joins only at the end may come between the two visits. -/
theorem Place.enter_twice {α β : Type} {x : Place → Planner α} (owner : Place) (name : String)
    (kind kind' : JoinKind) (f : α → Place → Planner β)
    (hx : ∀ {target a d d'}, (x target).run d = .ok (a, d') → d.joins <+: d'.joins) :
    (do
      let target ← owner.enter s name kind
      let a ← x target
      let target' ← owner.enter s name kind'
      f a target') = (do
      let target ← owner.enter s name kind
      let a ← x target
      f a target) := by
  refine StateT.ext fun d => ?_
  simp only [StateT.run_bind]
  cases henter : (owner.enter s name kind).run d with
  | error f => rfl
  | ok entered =>
      obtain ⟨target, d₁⟩ := entered
      cases hbetween : (x target).run d₁ with
      | error f => simp only [bind, Except.bind, hbetween]
      | ok result =>
          obtain ⟨a, d₂⟩ := result
          have hagain := Place.enter_again henter (hx hbetween) kind'
          simp only [bind, Except.bind, hbetween, hagain]

/-! ## The steps -/

theorem Node.planAll_singleton (outer : Connective) (node : Node) :
    Node.planAll s outer here [node] = node.plan s outer here := by
  simp [Node.planAll]

theorem Node.plan_splice (connective : Connective) (children : List Node) :
    Node.plan s connective here (.group ⟨connective, false, children⟩)
      = Node.planAll s connective here children := by
  simp [Node.plan]

/-- In a conjunction, the parts of a join are those of its body. -/
theorem Node.plan_join (association : String) (kind : JoinKind) (body : Group) :
    Node.plan s .all here (.join association kind body) = (do
      let target ← here.enter s association kind
      Node.planAll s body.connective target body.children) := by
  obtain ⟨connective, negated, children⟩ := body
  simp [Node.plan]

theorem Node.planAll_merge (association : String) (kind kind' : JoinKind)
    (connective : Connective) (negated negated' : Bool) (xs ys : List Node) :
    Node.planAll s .all here
        [.join association kind ⟨connective, negated, xs⟩,
          .join association kind' ⟨connective, negated', ys⟩]
      = Node.planAll s .all here [.join association kind ⟨connective, negated, xs ++ ys⟩] := by
  rw [Node.planAll_singleton, Node.planAll, Node.planAll_singleton, Node.plan_join,
    Node.plan_join, Node.plan_join]
  simp only [Node.planAll_append, bind_assoc]
  exact Place.enter_twice here association kind kind' _ Node.planAll_joins

/-- What is the same by itself is the same among others. -/
theorem Node.planAll_among {outer : Connective} {xs ys : List Node}
    (h : Node.planAll s outer here xs = Node.planAll s outer here ys) (before after : List Node) :
    Node.planAll s outer here (before ++ xs ++ after)
      = Node.planAll s outer here (before ++ ys ++ after) := by
  simp only [Node.planAll_append, h]

/-- A flatter list of children is planned in the same way, wherever it
stands. -/
theorem Node.Flattens.planAll_eq {outer : Connective} {xs ys : List Node}
    (h : Node.Flattens outer xs ys) (here : Place) :
    Node.planAll s outer here xs = Node.planAll s outer here ys := by
  induction h generalizing here with
  | splice connective children => rw [Node.planAll_singleton, Node.plan_splice]
  | merge association kind kind' connective negated negated' xs ys =>
      exact Node.planAll_merge association kind kind' connective negated negated' xs ys
  | among before after _ ih => exact Node.planAll_among (ih here) before after
  | inGroup outer negated _ ih =>
      simp only [Node.planAll_singleton, Node.plan, ih]
  | inJoin outer association kind negated _ ih =>
      simp only [Node.planAll_singleton, Node.plan, ih]

end

/-- A filter compiles to the same query with a flatter tree, or fails with
the same error. -/
theorem Schema.compile_flattened {s : Schema} {scope : Scope} {children : List Node}
    (h : Node.Flattens scope.group.connective scope.group.children children) (config : Config)
    (id : ModelId) (base : Option BaseCondition) :
    s.compile config id { scope with group := { scope.group with children } } base
      = s.compile config id scope base := by
  have hplan (subject : Place) :
      Scope.plan s subject { scope with group := { scope.group with children } }
        = scope.plan s subject := by
    simp only [Scope.plan, h.planAll_eq]
  simp only [Schema.compile, Schema.plan, hplan]

/-- Not what has an author without a name and without an age, who is looked
up once for each, the second time in a group. -/
def Scope.scattered : Scope :=
  (Step.run [] (.group .all true
    [.having "author" .left [.restrict "name" false [.isNull]],
      .having "author" .inner [.group .all false [.restrict "age" false [.isNull]]]]) .root).1

/-- The author is looked up once for both. -/
def Scope.gathered : Scope :=
  (Step.run [] (.group .all true
    [.having "author" .left
      [.restrict "name" false [.isNull], .group .all false [.restrict "age" false [.isNull]]]])
    .root).1

/-- And nothing is grouped that is together anyway. -/
def Scope.flat : Scope :=
  (Step.run [] (.group .all true
    [.having "author" .left [.restrict "name" false [.isNull], .restrict "age" false [.isNull]]])
    .root).1

theorem Schema.compile_flattened_scattered :
    Schema.forum.compile {} ⟨0⟩ .gathered none = Schema.forum.compile {} ⟨0⟩ .scattered none
      ∧ Schema.forum.compile {} ⟨0⟩ .flat none = Schema.forum.compile {} ⟨0⟩ .gathered none
      ∧ ∃ q, Schema.forum.compile {} ⟨0⟩ .flat none = .ok q
        ∧ q.condition = some "NOT ((\"users\".name IS NULL) AND (\"users\".age IS NULL))"
        ∧ q.joins.length = 1 := by
  have hmerge : Node.Flattens Scope.scattered.group.connective Scope.scattered.group.children
      Scope.gathered.group.children :=
    .inGroup .all true (.merge "author" .left .inner .all false false [_] [_])
  have hsplice : Node.Flattens Scope.gathered.group.connective Scope.gathered.group.children
      Scope.flat.group.children :=
    .inGroup .all true (.inJoin .all "author" .left false (.among [_] [] (.splice .all [_])))
  exact ⟨Schema.compile_flattened hmerge {} ⟨0⟩ none, Schema.compile_flattened hsplice {} ⟨0⟩ none,
    _, rfl, by decide +kernel, rfl⟩

end Criteria
