import Criteria.Proofs.Plan.Binding
import Criteria.Proofs.Plan.Declarations
import Criteria.Proofs.Sql.Quotes

/-!
# Configurations are presentation

What a configuration can change of a query. A plan knows none, so whether
a filter compiles, with which error it fails, and everything of the query
that is not a condition or a join is the same under all of them. The main
statement, `compile_presentation`, adds that quoting makes no difference
but for the quotes: no label was chosen and no column was left alone
because a name looked different in quotes.
-/

namespace Criteria

open Sql (Condition Hop JoinKind dropQuotes)

/-! ## Names without quotes -/

/-- The key columns that an association is joined by, whether they are
given or called after a record type. -/
def Association.keys (a : Association) (owner target : Endpoint) : List String :=
  match a.kind with
  | .belongsTo => [a.primaryKey, a.ownKey]
  | .hasOne | .hasMany => [a.primaryKey, a.targetKey owner]
  | .manyToMany through =>
    let (sourceColumn, targetColumn) := through.keyColumns owner target
    [a.primaryKey, sourceColumn, targetColumn]

/-- No table, no association and no key has a double quote in its name. -/
structure Schema.NoQuotes (s : Schema) : Prop where
  table : ∀ id table, s.table id = .ok table → '"' ∉ table.toList
  association : ∀ m ∈ s.models, ∀ a ∈ m.associations, '"' ∉ a.name.toList
  joinTable : ∀ m ∈ s.models, ∀ a ∈ m.associations, ∀ j ∈ a.joinTable?, '"' ∉ j.table.toList
  key : ∀ id name a owner target, s.association id name = .ok a → s.endpoint id = .ok owner →
    s.endpoint a.target = .ok target → ∀ key ∈ a.keys owner target, '"' ∉ key.toList

theorem Schema.NoQuotes.spelledWith {s : Schema} (hs : s.NoQuotes) : s.SpelledWith (· ≠ '"') :=
  Schema.spelledWith_ne (by decide) (by decide) hs.table hs.association

/-- A hop is written with labels, tables and keys. -/
theorem Association.hops_names (a : Association) (owner target : Endpoint) :
    ∀ h ∈ a.hops owner target, ∀ name ∈ h.names,
      name = owner.label ∨ name = target.table ∨ name = target.label
        ∨ name ∈ a.keys owner target
        ∨ ∃ j ∈ a.joinTable?, name = j.table ∨ name = j.labelFor target := by
  unfold Association.hops Association.keys Association.joinTable?
  cases a.kind <;> simp [Hop.names]

theorem JoinTable.labelFor_unquoted {j : JoinTable} {target : Endpoint}
    (htable : '"' ∉ j.table.toList) (hlabel : '"' ∉ target.label.toList) :
    '"' ∉ (j.labelFor target).toList := by
  unfold JoinTable.labelFor
  split
  · rw [← spelled_ne_iff] at htable hlabel ⊢
    exact (htable.append (spelled_ne_iff.mpr (by decide))).append hlabel
  · exact htable

/-- What is joined is written without quotes of its own. -/
theorem Visit.JoinedBy.unquoted {s : Schema} {subject : Place} {d : Draft} {v : Visit}
    {e : JoinEntry} (h : v.JoinedBy s subject d e) (hs : s.NoQuotes)
    (hlabels : d.SpelledLabels (· ≠ '"') subject) :
    ∀ hop ∈ e.hops, ∀ name ∈ hop.names, '"' ∉ name.toList := by
  obtain ⟨owner, a, ownerEnd, targetEnd, hreach, ha, ho, ht, he, -, hhops⟩ := h
  obtain ⟨m, hm, ham⟩ := Schema.association_mem ha
  have howner : '"' ∉ owner.label.toList :=
    spelled_ne_iff.mp (hlabels _ (Place.reach_label hreach))
  have hlabel : '"' ∉ e.label.toList :=
    spelled_ne_iff.mp (hlabels _ (List.mem_cons_of_mem _
      (List.mem_map_of_mem (Draft.entry?_some he).1)))
  intro hop hhop name hname
  rw [hhops] at hhop
  rcases a.hops_names _ _ hop hhop name hname with
    rfl | rfl | rfl | hkey | ⟨j, hj, rfl | rfl⟩
  · exact howner
  · exact hs.table _ _ (Schema.endpoint_ok ht).1
  · exact hlabel
  · exact hs.key _ _ _ _ _ ha ho ht name hkey
  · exact hs.joinTable m hm a ham j hj
  · exact JoinTable.labelFor_unquoted (hs.joinTable m hm a ham j hj) hlabel

/-! ## Queries under two configurations -/

/-- The queries differ at most in how their conditions and joins are
written. -/
structure Query.SameContent (q q' : Query) : Prop where
  condition : q.condition.isSome = q'.condition.isSome
  joins : q.joins.length = q'.joins.length
  bindValues : q.bindValues = q'.bindValues
  order : q.order = q'.order
  groupBy : q.groupBy = q'.groupBy
  limit : q.limit = q'.limit
  offset : q.offset = q'.offset
  selected : q.selected = q'.selected
  distinct : q.distinct = q'.distinct

theorem Plan.query_sameContent (p : Plan) (config config' : Config) :
    (p.query config).SameContent (p.query config') where
  condition := by simp [Plan.query]
  joins := by simp [Plan.query]
  bindValues := rfl
  order := rfl
  groupBy := rfl
  limit := rfl
  offset := rfl
  selected := rfl
  distinct := rfl

section

variable {s : Schema} {id : ModelId} {scope : Scope} {plan : Plan}

theorem Schema.plan_unquoted (hs : s.NoQuotes)
    (hcolumns : ∀ x ∈ scope.restrictions, '"' ∉ x.2.column.toList)
    (h : s.plan id scope none = .ok plan) (style : Sql.PlaceholderStyle) :
    (plan.query ⟨style, false⟩).condition = (plan.query ⟨style, true⟩).condition.map dropQuotes
      ∧ (plan.query ⟨style, false⟩).joins = (plan.query ⟨style, true⟩).joins.map dropQuotes := by
  obtain ⟨table, d, htable, hwalk, -, hjoins, hcondition⟩ := Schema.plan_parts h
  have hname := Draft.namedBy_nameAt s ⟨id, table⟩ d
  have hlabels := hs.spelledWith.labels htable hwalk
  have hchart : Chart s ⟨id, table⟩ scope.visits d := (Chart.start s id table none).walk hwalk
  constructor
  · have hleaves : ∀ leaf ∈ Condition.allLeaves plan.condition.toList, leaf.Unquoted style := by
      rw [hcondition _ hname, Condition.allLeaves_combine, Scope.parts_leaves]
      intro leaf hleaf
      obtain ⟨x, hx, t, rfl, hlabel, hcolumn⟩ := hs.spelledWith.tests htable hwalk hname leaf hleaf
      exact Sql.Test.text_unquoted (spelled_ne_iff.mp hlabel) (hcolumn ▸ hcolumns x hx) style
    simp only [Plan.query]
    cases hplan : plan.condition with
    | none => rfl
    | some c =>
        rw [hplan] at hleaves
        have hc : c.Unquoted style := Condition.text_unquoted fun leaf hleaf =>
          hleaves leaf (List.mem_append_left _ hleaf)
        exact congrArg some hc.symm
  · simp only [Plan.query, List.map_map, hjoins]
    refine List.map_congr_left fun e he => ?_
    obtain ⟨v, -, hv⟩ := forall₂_mem_right hchart.joined he
    exact (Hop.clause_unquoted (hv.unquoted hs hlabels) e.kind).symm

/-- Two configurations agree on whether a filter compiles, on the failure,
and on everything but the texts of the condition and the joins. If no
name has a double quote in it, these texts are without quoting what is
left of the quoted ones when all double quotes are deleted. -/
theorem Schema.compile_presentation (s : Schema) (id : ModelId) (scope : Scope) :
    (∀ base config config',
        (∃ f, s.compile config id scope base = .error f
          ∧ s.compile config' id scope base = .error f)
        ∨ ∃ q q', s.compile config id scope base = .ok q
          ∧ s.compile config' id scope base = .ok q' ∧ q.SameContent q')
      ∧ (s.NoQuotes → (∀ x ∈ scope.restrictions, '"' ∉ x.2.column.toList) →
        ∀ style q q', s.compile ⟨style, true⟩ id scope none = .ok q →
          s.compile ⟨style, false⟩ id scope none = .ok q' →
          q'.condition = q.condition.map dropQuotes ∧ q'.joins = q.joins.map dropQuotes) := by
  refine ⟨fun base config config' => ?_, fun hs hcolumns style q q' hq hq' => ?_⟩
  · cases hplan : s.plan id scope base with
    | error f => exact .inl ⟨f, by rw [compile, hplan]; rfl, by rw [compile, hplan]; rfl⟩
    | ok plan =>
        exact .inr ⟨plan.query config, plan.query config', by rw [compile, hplan]; rfl,
          by rw [compile, hplan]; rfl, plan.query_sameContent config config'⟩
  · obtain ⟨plan, hplan, rfl⟩ := Schema.compile_ok hq
    obtain ⟨plan', hplan', rfl⟩ := Schema.compile_ok hq'
    obtain rfl : plan = plan' := Except.ok.inj (hplan.symm.trans hplan')
    exact Schema.plan_unquoted hs hcolumns hplan style

end

theorem Schema.linkLogs_noQuotes : Schema.linkLogs.NoQuotes where
  table := fun ⟨i⟩ table h => by
    match i with
    | 0 => cases h; decide
    | 1 => cases h; decide
    | _ + 2 => cases h
  association := by
    have hall : ∀ m ∈ Schema.linkLogs.models.toList, ∀ a ∈ m.associations,
        '"' ∉ a.name.toList := by decide
    exact fun m hm => hall m hm.val
  joinTable := by
    have hall : ∀ m ∈ Schema.linkLogs.models.toList, ∀ a ∈ m.associations, ∀ j ∈ a.joinTable?,
        '"' ∉ j.table.toList := by decide
    exact fun m hm => hall m hm.val
  key := by
    intro id name a owner target ha _ _
    obtain ⟨m, hm, ham⟩ := Schema.association_mem ha
    rw [Array.mem_def] at hm
    simp only [Schema.linkLogs, List.mem_cons, List.not_mem_nil, or_false] at hm
    rcases hm with rfl | rfl
    · simp only [List.mem_cons, List.not_mem_nil, or_false] at ham
      -- All keys are given, so the ends of the join do not matter.
      rcases ham with rfl | rfl
      · have hkeys : ∀ key ∈ ["id", "post_id"], '"' ∉ key.toList := by decide
        exact hkeys
      · have hkeys : ∀ key ∈ ["id", "from_id", "to_id"], '"' ∉ key.toList := by decide
        exact hkeys
    · cases ham

/-- Posts whose related posts have no title. -/
def Scope.untitled : Scope :=
  { kind := .root
    group := { connective := .all, children := [
      .join "related" .left { connective := .all, children := [
        .restriction { column := "title", operator := some .isNull }] }] } }

theorem Schema.compile_presentation_untitled :
    ∃ q q', Schema.linkLogs.compile ⟨.question, true⟩ ⟨0⟩ .untitled none = .ok q
      ∧ Schema.linkLogs.compile ⟨.question, false⟩ ⟨0⟩ .untitled none = .ok q'
      ∧ q.condition = some "\"related_posts\".title IS NULL"
      ∧ q'.condition = q.condition.map dropQuotes ∧ q'.joins = q.joins.map dropQuotes := by
  obtain ⟨-, hquotes⟩ := Schema.compile_presentation .linkLogs ⟨0⟩ .untitled
  have hcolumns : ∀ x ∈ Scope.untitled.restrictions, '"' ∉ x.2.column.toList := by decide
  have hquoted : ∃ q, Schema.linkLogs.compile ⟨.question, true⟩ ⟨0⟩ .untitled none = .ok q
      ∧ q.condition = some "\"related_posts\".title IS NULL" := ⟨_, rfl, by decide⟩
  have hplain : ∃ q, Schema.linkLogs.compile ⟨.question, false⟩ ⟨0⟩ .untitled none = .ok q :=
    ⟨_, rfl⟩
  obtain ⟨q, hq, htext⟩ := hquoted
  obtain ⟨q', hq'⟩ := hplain
  exact ⟨q, q', hq, hq', htext, hquotes Schema.linkLogs_noQuotes hcolumns .question q q' hq hq'⟩

end Criteria
