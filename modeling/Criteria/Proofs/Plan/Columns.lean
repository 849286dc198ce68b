import Criteria.Proofs.Plan.Joins
import Criteria.Proofs.Sql.Lexing

/-!
# Columns that rows are ordered and grouped by

What is written for a column (`ColumnRef.Text`) depends on the schema and
on the names of the paths, and not on the draft that it was planned in.
The names are those of the conditions: a naming that the finished draft
bears out gives every path its label, whoever came first that way.
-/

namespace Criteria

open Sql (Condition)

/-! ## The text of a column -/

/-- Some type of the lineage declares columns, and none declares this
one. -/
def Schema.Lacks (s : Schema) (id : ModelId) (column : String) : Prop :=
  (∃ t ∈ (s.lineage id).types, t.2.columns ≠ []) ∧
    ∀ t ∈ (s.lineage id).types, column ∉ t.2.columns

/-- What stands for a column of a type that goes by a name. -/
inductive Schema.ColumnText (s : Schema) (id : ModelId) (label column : String) : String → Prop
  | expression (h : Sql.isPlain column = false) : s.ColumnText id label column column
  | lacking (h : s.Lacks id column) : s.ColumnText id label column column
  | qualified (hplain : Sql.isPlain column = true) (h : ¬ s.Lacks id column) :
      s.ColumnText id label column (label ++ "." ++ column)

/-- What stands for a reference from a subject, by the names of the
paths. -/
inductive ColumnRef.Text (s : Schema) (id : ModelId) (name : List String → String) :
    ColumnRef → String → Prop
  | literal (sql : String) : ColumnRef.Text s id name (.literal sql) sql
  | name {column text : String} (h : s.ColumnText id (name []) column text) :
      ColumnRef.Text s id name (.name column) text
  | path {associations : List String} {column text : String} {m : ModelId}
      (hmodel : s.modelAt id associations = .ok m)
      (h : s.ColumnText m (name associations) column text) :
      ColumnRef.Text s id name (.path associations column) text

/-- A type whose lookup comes to an end says that it does not have a
column just when it lacks it. -/
theorem Schema.hasColumn_lacks {s : Schema} {id : ModelId} {column : String} {known : Option Bool}
    (h : s.hasColumn id column = .ok known) : known = some false ↔ s.Lacks id column := by
  obtain ⟨found, hfound, h⟩ := except_bind_ok.mp h
  unfold Lineage.findSome? at hfound
  cases hnearest : (s.lineage id).types.findSome? fun t =>
      if t.2.declares column then some () else none with
  | some u =>
      rw [hnearest] at hfound
      cases hfound
      cases h
      obtain ⟨t, ht, hdeclares⟩ := List.exists_of_findSome?_eq_some hnearest
      have hmem : column ∈ t.2.columns := by
        by_contra hnot
        simp [Model.declares, hnot] at hdeclares
      exact ⟨nofun, fun hlacks => absurd hmem (hlacks.2 t ht)⟩
  | none =>
      have hnone : ∀ t ∈ (s.lineage id).types, column ∉ t.2.columns := by
        intro t ht hmem
        have hundeclared := List.findSome?_eq_none_iff.mp hnearest t ht
        simp [Model.declares, hmem] at hundeclared
      rw [hnearest] at hfound
      split at hfound
      · contradiction
      · cases hfound
        cases h
        have hany : (s.lineage id).any (fun m => !m.columns.isEmpty) = true ↔
            ∃ t ∈ (s.lineage id).types, t.2.columns ≠ [] := by
          simp [Lineage.any]
        rw [Schema.Lacks, and_iff_left hnone, ← hany]
        split <;> simp_all
      · cases hfound

/-! ## Planning a column -/

section

variable {s : Schema} {subject : Place} {name : List String → String} {d d' : Draft}

theorem Place.column_text {here : Place} {column text : String}
    (h : here.column s column = .ok text) : s.ColumnText here.model here.label column text := by
  unfold Place.column at h
  split at h
  · rename_i hplain
    cases h
    exact .expression (by simpa using hplain)
  · rename_i hplain
    replace hplain : Sql.isPlain column = true := by simpa using hplain
    obtain ⟨known, hknown, h⟩ := except_bind_ok.mp h
    have hlacks := Schema.hasColumn_lacks hknown
    split at h
    · rename_i hno
      cases h
      exact .lacking (hlacks.mp hno)
    · rename_i hno
      cases h
      rw [Sql.qualified_plain hplain, Sql.tableName, if_neg Bool.false_ne_true]
      exact .qualified hplain (fun h => hno (hlacks.mpr h))

theorem ColumnRef.plan_text {column : ColumnRef} {text : String}
    (h : (column.plan s subject).run d = .ok (text, d')) (hname : d'.NamedBy s subject name) :
    column.Text s subject.model name text := by
  cases column with
  | literal sql =>
      obtain ⟨rfl, -⟩ := Planner.pure_ok.mp h
      exact .literal _
  | name column =>
      obtain ⟨hcolumn, -⟩ := Planner.lift_ok.mp h
      have hsubject : subject.reach s d' [] = some subject := rfl
      refine .name ?_
      rw [hname hsubject]
      exact Place.column_text hcolumn
  | path associations column =>
      obtain ⟨here, d₁, hfollow, h⟩ := Planner.bind_ok.mp h
      obtain ⟨hcolumn, rfl⟩ := Planner.lift_ok.mp h
      have hreach : subject.reach s d' ([] ++ associations) = some here :=
        (Place.follow_walk rfl hfollow).2
      rw [List.nil_append] at hreach
      refine .path (Place.reach_model hreach) ?_
      rw [hname hreach]
      exact Place.column_text hcolumn

theorem ColumnRef.planAll_texts {columns : List ColumnRef} {texts : List String}
    (h : (ColumnRef.planAll s subject columns).run d = .ok (texts, d'))
    (hname : d'.NamedBy s subject name) :
    List.Forall₂ (ColumnRef.Text s subject.model name) columns texts := by
  induction columns generalizing d texts with
  | nil =>
      obtain ⟨rfl, -⟩ := Planner.pure_ok.mp h
      exact .nil
  | cons column rest ih =>
      obtain ⟨text, _, hcolumn, h⟩ := Planner.bind_ok.mp h
      obtain ⟨others, _, hrest, h⟩ := Planner.bind_ok.mp h
      obtain ⟨rfl, rfl⟩ := Planner.pure_ok.mp h
      exact .cons (plan_text hcolumn (hname.mono (planAll_walk hrest).joins)) (ih hrest)

theorem OrderEntry.planAll_texts {entries : List OrderEntry} {order : List (String × SortOrder)}
    (h : (OrderEntry.planAll s subject entries).run d = .ok (order, d'))
    (hname : d'.NamedBy s subject name) :
    List.Forall₂ (fun e o => e.column.Text s subject.model name o.1 ∧ o.2 = e.direction)
      entries order := by
  induction entries generalizing d order with
  | nil =>
      obtain ⟨rfl, -⟩ := Planner.pure_ok.mp h
      exact .nil
  | cons entry rest ih =>
      obtain ⟨text, _, hcolumn, h⟩ := Planner.bind_ok.mp h
      obtain ⟨others, _, hrest, h⟩ := Planner.bind_ok.mp h
      obtain ⟨rfl, rfl⟩ := Planner.pure_ok.mp h
      have htext := ColumnRef.plan_text hcolumn (hname.mono (planAll_walk hrest).joins)
      exact .cons ⟨htext, rfl⟩ (ih hrest)

/-- The texts of the orders and of the groupings of a filter. -/
theorem Scope.plan_texts {scope : Scope} {parts : List Condition}
    {order : List (String × SortOrder)} {groupBy : List String}
    (h : (scope.plan s subject).run d = .ok ((parts, order, groupBy), d'))
    (hname : d'.NamedBy s subject name) :
    List.Forall₂ (fun e o => e.column.Text s subject.model name o.1 ∧ o.2 = e.direction)
        scope.clauses.order order ∧
      List.Forall₂ (ColumnRef.Text s subject.model name) scope.clauses.groupBy groupBy := by
  obtain ⟨_, d₁, -, h⟩ := Planner.bind_ok.mp h
  obtain ⟨_, d₂, horder, h⟩ := Planner.bind_ok.mp h
  obtain ⟨_, d₃, hgroupBy, h⟩ := Planner.bind_ok.mp h
  obtain ⟨heq, rfl⟩ := Planner.pure_ok.mp h
  cases heq
  -- What was planned before has only some of the joins.
  have hbefore := hname.mono (ColumnRef.planAll_walk hgroupBy).joins
  exact ⟨OrderEntry.planAll_texts horder hbefore, ColumnRef.planAll_texts hgroupBy hname⟩

end

/-! ## Lists of columns -/

/-- What is written for columns, each with what follows it: nothing just
when there are none, and otherwise their texts in order under commas. -/
def ColumnRef.Listed (s : Schema) (id : ModelId) (name : List String → String)
    (columns : List (ColumnRef × String)) (written : Option String) : Prop :=
  (written = none ↔ columns = []) ∧
    ∀ list, written = some list → ∃ texts, list = ", ".intercalate texts ∧
      List.Forall₂ (fun c text => ∃ t, c.1.Text s id name t ∧ text = t ++ c.2) columns texts

theorem commaList_listed {s : Schema} {id : ModelId} {name : List String → String}
    {columns : List (ColumnRef × String)} {texts : List String}
    (h : List.Forall₂ (fun c text => ∃ t, c.1.Text s id name t ∧ text = t ++ c.2) columns texts) :
    ColumnRef.Listed s id name columns (commaList texts) := by
  cases h with
  | nil => exact ⟨⟨fun _ => rfl, fun _ => rfl⟩, nofun⟩
  | cons hfirst hrest =>
      refine ⟨⟨nofun, nofun⟩, fun list hlist => ?_⟩
      cases hlist
      exact ⟨_, rfl, .cons hfirst hrest⟩

/-- The visits of a walk lead to every path on the way. -/
theorem Visit.mem_along {path associations before : List String} (hbefore : before ≠ [])
    (h : before <+: associations) :
    path ++ before ∈ (Visit.along path associations).map Visit.target := by
  induction associations generalizing path before with
  | nil => exact absurd (List.prefix_nil.mp h) hbefore
  | cons association rest ih =>
      obtain ⟨first, before, rfl⟩ := List.exists_cons_of_ne_nil hbefore
      obtain ⟨rfl, hrest⟩ := List.cons_prefix_cons.mp h
      rw [Visit.along, List.map_cons, List.mem_cons, Visit.target]
      cases before with
      | nil => exact .inl rfl
      | cons next more =>
          refine .inr ?_
          have hpath : path ++ first :: next :: more = path ++ [first] ++ next :: more :=
            List.append_cons ..
          rw [hpath]
          exact ih (List.cons_ne_nil _ _) hrest

/-- A column at the end of a path has every path on the way visited. -/
theorem Scope.path_visited {scope : Scope} {associations before : List String} {column : String}
    (hcolumn : .path associations column ∈ scope.columns) (hbefore : before ≠ [])
    (h : before <+: associations) : before ∈ scope.visits.map Visit.target := by
  have hvisits : ∀ v ∈ Visit.along [] associations, v ∈ scope.visits := by
    intro v hv
    have hsite : Site.visit v ∈ scope.sites :=
      List.mem_append_right _ (List.mem_map_of_mem (List.mem_flatMap.mpr ⟨_, hcolumn, hv⟩))
    exact List.mem_filterMap.mpr ⟨_, hsite, rfl⟩
  have hmem : [] ++ before ∈ (Visit.along [] associations).map Visit.target :=
    Visit.mem_along hbefore h
  obtain ⟨v, hv, htarget⟩ := List.mem_map.mp hmem
  exact List.mem_map.mpr ⟨v, hvisits v hv, htarget⟩

/-! ## The orders and groupings of a query -/

variable {s : Schema} {id : ModelId} {scope : Scope} {base : Option BaseCondition}

/-- The orders and the groupings of a query are the texts of their columns
in order, by the names that qualify the columns of the condition. The
paths on the way to a column are joined, whatever its text. -/
theorem Schema.compile_columns {config : Config} {q : Query}
    (h : s.compile config id scope base = .ok q) :
    ∃ plan name, s.plan id scope base = .ok plan ∧ q = plan.query config
      ∧ PathNames s id scope name
      ∧ (Condition.allLeaves plan.condition.toList).filterMap Condition.column?
          = (scope.restrictions.map fun (path, r) => (name path, r.column))
      ∧ ColumnRef.Listed s id name
          (scope.clauses.order.map fun e => (e.column, " " ++ e.direction.sql)) q.order
      ∧ ColumnRef.Listed s id name (scope.clauses.groupBy.map fun c => (c, "")) q.groupBy
      ∧ ∀ associations column, .path associations column ∈ scope.columns →
          ∀ before, before ≠ [] → before <+: associations →
            ∃ (v : Visit) (clause : String), v.target = before ∧ clause ∈ q.joins
              ∧ v.Clause s id config.quoteTables name clause := by
  obtain ⟨plan, hplan, rfl⟩ := Schema.compile_ok h
  have hplanned := hplan
  obtain ⟨table, htable, hplan⟩ := except_bind_ok.mp hplan
  obtain ⟨⟨⟨parts, order, groupBy⟩, d⟩, hscope, hplan⟩ := except_bind_ok.mp hplan
  cases hplan
  obtain ⟨d₁, hparts, hcolumns, hwalk⟩ := Scope.plan_ok hscope
  have hname := Draft.namedBy_nameAt s ⟨id, table⟩ d
  have hclauses := hwalk.clauses config.quoteTables
  obtain ⟨horder, hgroupBy⟩ := Scope.plan_texts hscope hname
  have hparts : parts = Node.allParts (d.nameAt s ⟨id, table⟩) [] (Draft.start table base).bound
      scope.group.connective scope.group.children :=
    Node.planAll_parts rfl hparts (hname.mono hcolumns.joins)
  refine ⟨_, d.nameAt s ⟨id, table⟩, hplanned, rfl, .of_walk htable hwalk, ?_, ?_, ?_, ?_⟩
  · rw [Condition.allLeaves_combine, hparts]
    exact Scope.parts_columns hwalk _
  · refine commaList_listed ?_
    rw [List.forall₂_map_left_iff, List.forall₂_map_right_iff]
    exact horder.imp fun e o ⟨htext, hdirection⟩ =>
      ⟨o.1, htext, by rw [hdirection, String.append_assoc]⟩
  · refine commaList_listed ?_
    rw [List.forall₂_map_left_iff]
    exact hgroupBy.imp fun c text htext => ⟨text, htext, text.append_empty.symm⟩
  · intro associations column hcolumn before hbefore hprefix
    have hvisited := Scope.path_visited hcolumn hbefore hprefix
    obtain ⟨v, hv, rfl⟩ := List.mem_map.mp (Visit.mem_targets.mpr hvisited)
    obtain ⟨clause, hmem, hclause⟩ := forall₂_mem_left hclauses hv
    exact ⟨v, clause, rfl, hmem, hclause⟩

/-- Stories are items, whose columns are declared, as are those of the
users who write and edit them. -/
def Schema.gazette : Schema :=
  { models := #[
      { name := "User", table := some "users", columns := ["id", "name"] },
      { name := "Item", table := some "items", columns := ["id", "title", "author_id", "editor_id"]
        associations := [
          { name := "author", kind := .belongsTo, target := ⟨0⟩, foreignKey := some "author_id" },
          { name := "editor", kind := .belongsTo, target := ⟨0⟩,
            foreignKey := some "editor_id" }] },
      { name := "Story", table := none, parent := some ⟨1⟩ }] }

/-- Stories by Ann. They are ordered by the editor's name, by an age that
users do not have and by an expression, and grouped by two columns. -/
def Scope.ranked : Scope :=
  { kind := .root
    group := { connective := .all, children := [
      .join "author" .inner { connective := .all, children := [
        .restriction { column := "name", operator := some (.compare .equal)
                       operand := some (.string "Ann") }] }] }
    clauses :=
      { order := [⟨.path ["editor"] "name", .asc⟩, ⟨.path ["author"] "age", .desc⟩,
          ⟨.name "LOWER(title)", .asc⟩]
        groupBy := [.path ["author"] "name", .name "title"] } }

theorem Schema.compile_columns_ranked :
    ∃ q name, Schema.gazette.compile {} ⟨2⟩ .ranked none = .ok q
      ∧ q.order = some "editor_items.name ASC, age DESC, LOWER(title) ASC"
      ∧ q.groupBy = some "users.name, items.title"
      ∧ PathNames .gazette ⟨2⟩ .ranked name
      ∧ ColumnRef.Listed .gazette ⟨2⟩ name
          [(.path ["editor"] "name", " ASC"), (.path ["author"] "age", " DESC"),
            (.name "LOWER(title)", " ASC")] q.order := by
  have hcompile : ∃ q, Schema.gazette.compile {} ⟨2⟩ .ranked none = .ok q
      ∧ q.order = some "editor_items.name ASC, age DESC, LOWER(title) ASC"
      ∧ q.groupBy = some "users.name, items.title" := ⟨_, rfl, rfl, rfl⟩
  obtain ⟨q, h, horder, hgroupBy⟩ := hcompile
  obtain ⟨_, name, -, -, hnames, -, hlisted, -⟩ := Schema.compile_columns h
  exact ⟨q, name, h, horder, hgroupBy, hnames, hlisted⟩

end Criteria
