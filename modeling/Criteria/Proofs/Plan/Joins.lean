import Criteria.Proofs.Plan.Chart
import Criteria.Proofs.Plan.Parts
import Criteria.Proofs.Sql.Composition

/-!
# Joins and paths of associations

The main statement, `compile_joins`: the joins of a query correspond one
to one to the paths of associations that its filter visits, in the order
of the first visits. There is a naming of the paths, under which no two
of them share a name, such that the join of a path is what the schema
says about its last association between the two names, and every column
of the condition is qualified with the name of the path it stands under,
unless it is given with a qualification of its own.

Nothing of it depends on how often or from where a path is visited: the
chart of the finished draft speaks about first visits only, and a place
is named once its path is joined.
-/

namespace Criteria

open Sql (Condition Hop)

/-! ## Paths in a schema -/

/-- The record type at the end of a path, by the schema alone. -/
def Schema.modelAt (s : Schema) (id : ModelId) : List String → Except Failure ModelId
  | [] => .ok id
  | association :: rest => do
    let a ← s.association id association
    s.modelAt a.target rest

theorem Place.reach_model {s : Schema} {d : Draft} {here there : Place} {path : List String}
    (h : here.reach s d path = some there) : s.modelAt here.model path = .ok there.model := by
  induction path generalizing here with
  | nil =>
      cases h
      rfl
  | cons association rest ih =>
      obtain ⟨a, e, ha, -, h⟩ := Place.reach_cons.mp h
      rw [Schema.modelAt, ha]
      exact ih h

/-- The clause joins the association of the visit, from the name of its
path to that of its target. -/
def Visit.Clause (s : Schema) (id : ModelId) (quote : Bool) (name : List String → String)
    (v : Visit) (clause : String) : Prop :=
  ∃ owner a ownerEnd targetEnd, s.modelAt id v.path = .ok owner
    ∧ s.association owner v.association = .ok a
    ∧ s.endpoint owner = .ok ownerEnd ∧ s.endpoint a.target = .ok targetEnd
    ∧ clause = a.joinClause (ownerEnd.under (name v.path)) (targetEnd.under (name v.target))
        v.kind quote

/-- The subject and every path that is visited. -/
def Scope.paths (scope : Scope) : List (List String) := [] :: scope.visits.map Visit.target

/-- The names that the equation of a hop speaks of. -/
def Sql.Hop.references (h : Hop) : List String := [h.left.label, h.right.label]

/-- A hop refers to where the association starts, or to what its own join
declares. -/
theorem Association.hops_references (a : Association) (owner target : Endpoint) :
    ∀ h ∈ a.hops owner target, ∀ label ∈ h.references,
      label = owner.label ∨ label ∈ (a.hops owner target).map (·.label) := by
  intro h hmem label hlabel
  unfold Association.hops at hmem ⊢
  split at hmem <;> simp only [List.mem_cons, List.not_mem_nil, or_false] at hmem
  · subst hmem
    simpa [Hop.references, or_comm] using hlabel
  · subst hmem
    simpa [Hop.references, or_comm] using hlabel
  · subst hmem
    simpa [Hop.references, or_comm] using hlabel
  · rcases hmem with rfl | rfl
    · simp only [Hop.references, List.mem_cons, List.not_mem_nil, or_false] at hlabel
      rcases hlabel with rfl | rfl <;> simp
    · simp only [Hop.references, List.mem_cons, List.not_mem_nil, or_false] at hlabel
      rcases hlabel with rfl | rfl <;> simp

/-! ## Names of paths -/

/-- The label that stands for a path in a draft. -/
def Draft.nameAt (s : Schema) (subject : Place) (d : Draft) (path : List String) : String :=
  ((subject.reach s d path).map (·.label)).getD ""

theorem Draft.namedBy_nameAt (s : Schema) (subject : Place) (d : Draft) :
    d.NamedBy s subject (d.nameAt s subject) := fun _ _ h => by
  rw [Draft.nameAt, h]
  rfl

namespace Visit.JoinedBy

variable {s : Schema} {subject : Place} {d : Draft} {v : Visit} {e : JoinEntry}
  {name : List String → String}

/-- The entry of a visit is where its target goes by a name. -/
theorem reach_target (h : v.JoinedBy s subject d e) :
    ∃ there, subject.reach s d v.target = some there ∧ there.label = e.label := by
  obtain ⟨owner, a, _, _, hreach, ha, -, -, he, -⟩ := h
  exact ⟨⟨a.target, e.label⟩, Place.reach_snoc.mpr ⟨owner, a, e, hreach, ha, he, rfl⟩, rfl⟩

theorem name_target (h : v.JoinedBy s subject d e) (hname : d.NamedBy s subject name) :
    name v.target = e.label := by
  obtain ⟨there, hreach, hlabel⟩ := h.reach_target
  rw [hname hreach, hlabel]

theorem name_path (h : v.JoinedBy s subject d e) (hname : d.NamedBy s subject name) :
    name v.path = e.owner := by
  obtain ⟨owner, _, _, _, hreach, -, -, -, he, -⟩ := h
  rw [hname hreach, (Draft.entry?_some he).2.1]

theorem clause (h : v.JoinedBy s subject d e) (hname : d.NamedBy s subject name)
    (quote : Bool) :
    v.Clause s subject.model quote name (Hop.clause quote e.kind e.hops) := by
  have htarget := h.name_target hname
  obtain ⟨owner, a, ownerEnd, targetEnd, hreach, ha, ho, ht, -, hkind, hhops⟩ := h
  refine ⟨owner.model, a, ownerEnd, targetEnd, Place.reach_model hreach, ha, ho, ht, ?_⟩
  rw [Association.joinClause, hname hreach, htarget, hkind, hhops]

theorem references (h : v.JoinedBy s subject d e) :
    ∀ hop ∈ e.hops, ∀ label ∈ hop.references, label = e.owner ∨ label ∈ e.hops.map (·.label) := by
  obtain ⟨owner, a, ownerEnd, targetEnd, -, -, -, -, he, -, hhops⟩ := h
  intro hop hhop label hlabel
  rw [hhops] at hhop ⊢
  rw [(Draft.entry?_some he).2.1]
  exact a.hops_references _ _ hop hhop label hlabel

end Visit.JoinedBy

namespace Chart

variable {s : Schema} {subject : Place} {visits : List Visit} {d : Draft}

/-- Whoever was visited can be reached. -/
theorem reach_of_visited (h : Chart s subject visits d) {path : List String}
    (hpath : path ∈ [] :: visits.map Visit.target) :
    ∃ here, subject.reach s d path = some here := by
  rcases List.mem_cons.mp hpath with rfl | hpath
  · exact ⟨subject, rfl⟩
  · obtain ⟨v, hv, rfl⟩ := List.mem_map.mp (Visit.mem_targets.mpr hpath)
    obtain ⟨e, -, hjoined⟩ := forall₂_mem_left h.joined hv
    obtain ⟨there, hreach, -⟩ := hjoined.reach_target
    exact ⟨there, hreach⟩

theorem nameAt_injective (h : Chart s subject visits d) {p q : List String}
    (hp : p ∈ [] :: visits.map Visit.target) (hq : q ∈ [] :: visits.map Visit.target)
    (heq : d.nameAt s subject p = d.nameAt s subject q) : p = q := by
  obtain ⟨x, hx⟩ := h.reach_of_visited hp
  obtain ⟨y, hy⟩ := h.reach_of_visited hq
  rw [Draft.namedBy_nameAt s subject d hx, Draft.namedBy_nameAt s subject d hy] at heq
  exact h.reach_injective hx hy heq

/-- The owner of an entry is the subject, or was joined before. -/
theorem owner_earlier (h : Chart s subject visits d) {earlier later : List JoinEntry}
    {e : JoinEntry} (hsplit : d.joins = earlier ++ e :: later) :
    e.owner = subject.label ∨ e.owner ∈ earlier.map (·.label) := by
  have hjoined := h.joined
  rw [hsplit] at hjoined
  obtain ⟨vs, v, _, hvisits, hvs, hv⟩ := forall₂_split_right hjoined
  have hname := Draft.namedBy_nameAt s subject d
  rw [← hv.name_path hname]
  rcases h.rooted _ _ _ hvisits with hroot | hpath
  · rw [hroot]
    exact .inl (hname rfl)
  · obtain ⟨w, hw, htarget⟩ := List.mem_map.mp hpath
    obtain ⟨f, hf, hwf⟩ := forall₂_mem_left hvs hw
    rw [← htarget, hwf.name_target hname]
    exact .inr (List.mem_map_of_mem hf)

end Chart

/-! ## The joins of a query -/

/-- The subject and every path that the filter visits go by names of
their own. -/
structure PathNames (s : Schema) (id : ModelId) (scope : Scope) (name : List String → String) :
    Prop where
  subject : s.table id = .ok (name [])
  injective : ∀ p ∈ scope.paths, ∀ q ∈ scope.paths, name p = name q → p = q

variable {s : Schema} {id : ModelId} {scope : Scope} {base : Option BaseCondition}

/-- The chart of a finished draft names the paths of its filter. -/
theorem PathNames.of_walk {table : String} {d : Draft} (htable : s.table id = .ok table)
    (hwalk : Walk s ⟨id, table⟩ (.start table base) scope.sites d) :
    PathNames s id scope (d.nameAt s ⟨id, table⟩) where
  subject := htable
  injective := fun _ hp _ hq heq =>
    ((Chart.start s id table base).walk hwalk).nameAt_injective hp hq heq

/-- The entries of a finished draft are written out as the clauses of the
first visits. -/
theorem Walk.clauses {table : String} {d : Draft}
    (hwalk : Walk s ⟨id, table⟩ (.start table base) scope.sites d) (quote : Bool) :
    List.Forall₂ (Visit.Clause s id quote (d.nameAt s ⟨id, table⟩)) (Visit.firsts scope.visits)
      (d.joins.map fun e => Hop.clause quote e.kind e.hops) := by
  have hchart : Chart s ⟨id, table⟩ scope.visits d := (Chart.start s id table base).walk hwalk
  rw [List.forall₂_map_right_iff]
  exact hchart.joined.imp fun v e hv => hv.clause (Draft.namedBy_nameAt s ⟨id, table⟩ d) quote

/-- The text of a condition is made of the columns of the restrictions,
each under the name of its path, and of the base. -/
theorem Scope.parts_composed {table : String} {d : Draft} {c : Condition}
    (hwalk : Walk s ⟨id, table⟩ (.start table base) scope.sites d) (config : Config)
    {name : List String → String}
    (hc : Condition.combine .all (scope.parts name base) = some c) :
    Sql.Composed config.placeholders (c.text config)
      (scope.restrictions.map fun x =>
        Sql.qualified config.quoteTables (name x.1) x.2.column)
      (base.toList.map fun b => config.placeholders.renumber 0 b.values.length b.condition) := by
  have hleaves : c.leaves = Condition.allLeaves (scope.parts name base) := by
    rw [← Condition.allLeaves_combine .all, hc]
    exact (List.append_nil _).symm
  have hcolumns : c.leaves.filterMap (Condition.columnText? config)
      = scope.restrictions.map fun x =>
          Sql.qualified config.quoteTables (name x.1) x.2.column := by
    rw [hleaves]
    show (Condition.allLeaves (scope.parts name base)).filterMap (fun leaf =>
      leaf.column?.map fun x => Sql.qualified config.quoteTables x.1 x.2) = _
    rw [← List.map_filterMap, Scope.parts_columns hwalk, List.map_map]
    rfl
  have htests : (Site.tests name ((base.map (·.values)).getD []).length
      scope.treeSites).filterMap (Condition.givenText? config) = [] := by
    refine List.filterMap_eq_nil_iff.mpr fun leaf hleaf => ?_
    obtain ⟨_, _, t, -, rfl, -, -⟩ := Site.mem_tests hleaf
    rfl
  have hgivens : c.leaves.filterMap (Condition.givenText? config)
      = base.toList.map fun b =>
          config.placeholders.renumber 0 b.values.length b.condition := by
    rw [hleaves, Scope.parts_leaves, List.filterMap_append, htests]
    cases base <;> rfl
  rw [← hcolumns, ← hgivens]
  exact c.text_composed config

/-- The joins of a query are the clauses of the first visits along each
path, whose names also qualify the columns of its condition, unless these
have a point in them. An entry refers to the subject, to an entry before
it, or to what it declares itself. -/
theorem Schema.compile_joins {config : Config} {q : Query}
    (h : s.compile config id scope base = .ok q) :
    ∃ plan name, s.plan id scope base = .ok plan ∧ q = plan.query config
      ∧ PathNames s id scope name ∧ Visit.Firsts scope.visits (Visit.firsts scope.visits)
      ∧ List.Forall₂ (Visit.Clause s id config.quoteTables name) (Visit.firsts scope.visits)
          q.joins
      ∧ plan.joins.map (·.label) = (Visit.firsts scope.visits).map (name ·.target)
      ∧ (∀ earlier e later, plan.joins = earlier ++ e :: later →
          ∀ hop ∈ e.hops, ∀ label ∈ hop.references, label = name []
            ∨ label ∈ earlier.map (·.label) ∨ label ∈ e.hops.map (·.label))
      ∧ ∀ text, q.condition = some text → Sql.Composed config.placeholders text
          (scope.restrictions.map fun x =>
            if x.2.column.toList.contains '.' then x.2.column
            else Sql.tableName config.quoteTables (name x.1) ++ "." ++ x.2.column)
          (base.toList.map fun b =>
            config.placeholders.renumber 0 b.values.length b.condition) := by
  obtain ⟨plan, hplan, rfl⟩ := Schema.compile_ok h
  obtain ⟨table, d, htable, hwalk, -, hjoins, hcondition⟩ := Schema.plan_parts hplan
  have hchart : Chart s ⟨id, table⟩ scope.visits d := (Chart.start s id table base).walk hwalk
  have hname := Draft.namedBy_nameAt s ⟨id, table⟩ d
  refine ⟨plan, d.nameAt s ⟨id, table⟩, hplan, rfl, .of_walk htable hwalk,
    Visit.firsts_spec _, ?_, ?_, ?_, ?_⟩
  · rw [Plan.query, hjoins]
    exact hwalk.clauses config.quoteTables
  · rw [hjoins, eq_comm, ← List.forall₂_eq_eq_eq, List.forall₂_map_left_iff,
      List.forall₂_map_right_iff]
    exact hchart.joined.imp fun v e hv => hv.name_target hname
  · intro earlier e later hsplit hop hhop label hlabel
    rw [hjoins] at hsplit
    have hmem : e ∈ d.joins := hsplit ▸ List.mem_append_right _ (List.mem_cons_self ..)
    obtain ⟨v, -, hv⟩ := forall₂_mem_right hchart.joined hmem
    rcases hv.references hop hhop label hlabel with rfl | hown
    · rcases hchart.owner_earlier hsplit with hsubject | hearlier
      · exact .inl hsubject
      · exact .inr (.inl hearlier)
    · exact .inr (.inr hown)
  · intro text htext
    obtain ⟨c, hc, rfl⟩ := Option.map_eq_some_iff.mp htext
    exact Scope.parts_composed hwalk config ((hcondition _ hname).symm.trans hc)

/-- Posts with an author and an editor, who both are users. -/
def Schema.forum : Schema :=
  { models := #[
      { name := "Post", table := some "posts"
        associations := [
          { name := "author", kind := .belongsTo, target := ⟨1⟩, foreignKey := some "author_id" },
          { name := "editor", kind := .belongsTo, target := ⟨1⟩,
            foreignKey := some "editor_id" }] },
      { name := "User", table := some "users"
        associations := [
          { name := "boss", kind := .belongsTo, target := ⟨1⟩, foreignKey := some "boss_id" }] }] }

/-- Posts by Ann, or whose editor has no boss by name, or by Bob; the
author is visited twice. -/
def Scope.byline : Scope :=
  { kind := .root
    group := { connective := .any, children := [
      .join "author" .inner { connective := .all, children := [
        .restriction { column := "name", operator := some (.compare .equal)
                       operand := some (.string "Ann") }] },
      .join "editor" .left { connective := .all, children := [
        .join "boss" .inner { connective := .all, children := [
          .restriction { column := "name", operator := some .isNull }] }] },
      .join "author" .left { connective := .all, children := [
        .restriction { column := "name", operator := some (.compare .equal)
                       operand := some (.string "Bob") }] }] } }

theorem Schema.compile_joins_byline :
    ∃ q name, Schema.forum.compile {} ⟨0⟩ .byline none = .ok q
      ∧ PathNames .forum ⟨0⟩ .byline name
      ∧ List.Forall₂ (Visit.Clause .forum ⟨0⟩ true name)
          [⟨[], "author", .inner⟩, ⟨[], "editor", .left⟩, ⟨["editor"], "boss", .inner⟩]
          q.joins := by
  have hcompile : ∃ q, Schema.forum.compile {} ⟨0⟩ .byline none = .ok q := ⟨_, rfl⟩
  obtain ⟨q, h⟩ := hcompile
  obtain ⟨_, name, -, -, hnames, -, hjoins, -⟩ := Schema.compile_joins h
  exact ⟨q, name, h, hnames, hjoins⟩

/-- Posts by Ann with an editor Bob, whose column is given under a table of
its own. -/
def Scope.dotted : Scope :=
  (Step.runAll [] [
    .having "author" .inner [.restrict "name" false [.compare .equal (.value (.string "Ann"))]],
    .having "editor" .inner
      [.restrict "users.name" false [.compare .equal (.value (.string "Bob"))]]] .root).1

/-- The column of the editor stands in the condition, but under no name of
the path; as it stands it is about the author. -/
theorem Schema.compile_joins_dotted :
    ∃ q, Schema.forum.compile {} ⟨0⟩ .dotted none = .ok q
      ∧ (∃ r, (["editor"], r) ∈ Scope.dotted.restrictions ∧ r.column = "users.name")
      ∧ q.joins = [
          "INNER JOIN \"users\" ON \"users\".id = \"posts\".author_id",
          "INNER JOIN \"users\" AS \"editor_posts\" ON \"editor_posts\".id = \"posts\".editor_id"]
      ∧ q.condition = some "(\"users\".name = ?) AND (users.name = ?)"
      ∧ ∀ label : String, ¬(Sql.tableName true label ++ "." ++ "users.name").toList
          <:+: "(\"users\".name = ?) AND (users.name = ?)".toList := by
  have hsecond : (["editor"], ⟨"users.name", false, some (.compare .equal),
      some (.string "Bob")⟩) ∈ Scope.dotted.restrictions := .tail _ (.head _)
  refine ⟨_, rfl, ⟨_, hsecond, rfl⟩, by decide +kernel, by decide +kernel, fun label hinfix => ?_⟩
  -- a quoted name ends with a quote, and there is none before that column
  have hquote : "\".users.name".toList
      <:+ (Sql.tableName true label ++ "." ++ "users.name").toList :=
    ⟨'"' :: Sql.doubleQuotes label.toList, by simp [Sql.tableName, Sql.quoted]⟩
  have hnone : ¬"\".users.name".toList
      <:+: "(\"users\".name = ?) AND (users.name = ?)".toList := by decide +kernel
  exact hnone (hquote.isInfix.trans hinfix)

end Criteria
