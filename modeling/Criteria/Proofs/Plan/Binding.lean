import Criteria.Proofs.Plan.Joins
import Criteria.Proofs.Plan.Labels
import Criteria.Proofs.Sql.Placeholders

/-!
# Bind values and placeholders

The values of a query and the placeholders of its condition correspond
one to one. The values are those of the base and then the operands of the
restrictions, in the order of the document; the placeholders, read off
the finished text, are as many and come in the same order
(`compile_binds`).

For the text to be read at all, nothing that the condition is written
with may look like a placeholder or open a literal. That holds of tables,
associations and columns by assumption, and then of every label, which is
made of them.
-/

namespace Criteria

open Sql (Clean Condition)

/-! ## Labels -/

/-- Nothing in the names of tables and associations looks like a
placeholder or opens a literal. -/
structure Schema.CleanNames (s : Schema) : Prop where
  table : ∀ id table, s.table id = .ok table → Clean table.toList
  association : ∀ m ∈ s.models, ∀ a ∈ m.associations, Clean a.name.toList

theorem Schema.CleanNames.spelledWith {s : Schema} (hs : s.CleanNames) :
    s.SpelledWith (fun c => c ≠ '\'' ∧ c ≠ '?' ∧ c ≠ '$') where
  table := hs.table
  association := hs.association
  underscore := by decide
  digit := by
    intro c hc
    refine ⟨?_, ?_, ?_⟩ <;> rintro rfl <;> revert hc <;> decide

section

variable {s : Schema} {subject : Place} {d d' : Draft}

/-! ## Tests -/

/-- The place of a restriction that was passed can be reached. -/
theorem Walk.reached {sites : List Site} (hw : Walk s subject d sites d') {path : List String}
    {r : Restriction} (hmem : Site.restriction path r ∈ sites) :
    ∃ here, subject.reach s d' path = some here := by
  induction hw with
  | nil => cases hmem
  | @restriction d _ _ _ _ _ _ _ hreach _ hrest ih =>
      rcases List.mem_cons.mp hmem with heq | hmem
      · cases heq
        exact ⟨_, hrest.reach (Place.reach_mono (List.prefix_refl d.joins) hreach)⟩
      · exact ih hmem
  | visit _ _ _ ih =>
      rcases List.mem_cons.mp hmem with heq | hmem
      · cases heq
      · exact ih hmem

/-- What was walked over is tested in the columns of the restrictions,
under labels that are spelled as the names of the schema are. -/
theorem Schema.SpelledWith.tests {p : Char → Prop} {id : ModelId} {scope : Scope}
    {base : Option BaseCondition} {table : String} {name : List String → String} {bound : Nat}
    (hs : s.SpelledWith p) (htable : s.table id = .ok table)
    (hwalk : Walk s ⟨id, table⟩ (.start table base) scope.sites d)
    (hname : d.NamedBy s ⟨id, table⟩ name) :
    ∀ leaf ∈ Site.tests name bound scope.treeSites, ∃ x ∈ scope.restrictions, ∃ t,
      leaf = .test t ∧ Spelled p t.label ∧ t.column = x.2.column := by
  intro leaf hleaf
  obtain ⟨path, r, t, hmem, rfl, hlabel, hcolumn⟩ := Site.mem_tests hleaf
  obtain ⟨here, hreach⟩ := hwalk.reached (List.mem_append_left _ hmem)
  refine ⟨(path, r), List.mem_filterMap.mpr ⟨_, hmem, rfl⟩, t, rfl, ?_, hcolumn⟩
  rw [hlabel, hname hreach]
  exact hs.labels htable hwalk _ (Place.reach_label hreach)

end

/-! ## Values and placeholders of a query -/

/-- What a base has to be like for its placeholders to be told from its
text: quotes in pairs, no dollar sign, no question mark before a digit,
and a value for each question mark that is not inside a literal. -/
structure BaseCondition.Readable (base : BaseCondition) : Prop where
  text : Sql.Readable false base.condition.toList
  values : (Sql.placeholders false base.condition.toList).length = base.values.length

theorem BaseCondition.Readable.readsAs {base : BaseCondition} (h : base.Readable)
    (config : Config) : base.part.ReadsAs config base.part.numbers := by
  intro rest hrest
  exact Sql.placeholders_renumber config.placeholders h.text h.values hrest

section

variable {s : Schema} {id : ModelId} {scope : Scope} {base : Option BaseCondition}
  {config : Config} {q : Query}

theorem Schema.plan_readsAs {table : String} {d : Draft} {name : List String → String}
    {bound : Nat} (hs : s.CleanNames) (htable : s.table id = .ok table)
    (hcolumns : ∀ p ∈ scope.restrictions, Clean p.2.column.toList)
    (hwalk : Walk s ⟨id, table⟩ (.start table base) scope.sites d)
    (hname : d.NamedBy s ⟨id, table⟩ name) :
    ∀ leaf ∈ Site.tests name bound scope.treeSites, leaf.ReadsAs config leaf.numbers := by
  intro leaf hleaf
  obtain ⟨x, hx, t, rfl, hlabel, hcolumn⟩ := hs.spelledWith.tests htable hwalk hname leaf hleaf
  refine Condition.readsAs_test hlabel ?_
  rw [hcolumn]
  exact hcolumns x hx

/-- The values of a query are those of the base and the operands of the
restrictions. If nothing else looks like one, the placeholders of its
condition stand for them in that order, as many as there are. -/
theorem Schema.compile_binds (h : s.compile config id scope base = .ok q) :
    q.bindValues = (base.map (·.values)).getD [] ++ scope.operands
      ∧ (s.CleanNames → (∀ p ∈ scope.restrictions, Clean p.2.column.toList) →
          (∀ b ∈ base, b.Readable) →
          q.condition.toList.flatMap (fun text => Sql.placeholders false text.toList)
            = match config.placeholders with
              | .question => List.replicate q.bindValues.length "?"
              | .dollar =>
                (List.range q.bindValues.length).map fun i => "$" ++ Text.numeral (i + 1)) := by
  obtain ⟨plan, hplan, rfl⟩ := Schema.compile_ok h
  obtain ⟨table, d, htable, hwalk, hvalues, -, hcondition⟩ := Schema.plan_parts hplan
  have hbind : plan.values = (base.map (·.values)).getD [] ++ scope.operands := by
    rw [hvalues, hwalk.values, Scope.sites_operands]
    rfl
  refine ⟨hbind, fun hs hcolumns hbase => ?_⟩
  have hname := Draft.namedBy_nameAt s ⟨id, table⟩ d
  have hleaves := congrArg (fun c => Condition.allLeaves c.toList) (hcondition _ hname)
  rw [Condition.allLeaves_combine] at hleaves
  have hnumbers : (Condition.allLeaves plan.condition.toList).flatMap Condition.numbers
      = List.range' 1 plan.values.length := by
    rw [hleaves, hvalues]
    exact Scope.parts_numbers hwalk _
  have hread : ∀ leaf ∈ Condition.allLeaves plan.condition.toList,
      leaf.ReadsAs config leaf.numbers := by
    rw [hleaves, Scope.parts_leaves]
    intro leaf hmem
    rcases List.mem_append.mp hmem with hmem | hmem
    · cases base with
      | none => cases hmem
      | some b =>
          obtain rfl := List.mem_singleton.mp hmem
          exact (hbase b rfl).readsAs config
    · exact Schema.plan_readsAs hs htable hcolumns hwalk hname leaf hmem
  have htext := Condition.placeholders_text hread
  rw [hnumbers] at htext
  refine htext.trans ?_
  rw [Plan.query, List.range'_eq_map_range, List.map_map]
  cases config.placeholders with
  | question =>
      rw [List.eq_replicate_iff, List.length_map, List.length_range]
      refine ⟨rfl, fun token hmem => ?_⟩
      obtain ⟨i, -, rfl⟩ := List.mem_map.mp hmem
      rfl
  | dollar =>
      refine List.map_congr_left fun i _ => ?_
      rw [Function.comp, Nat.add_comm]
      rfl

end

theorem Schema.forum_cleanNames : Schema.forum.CleanNames where
  table := fun ⟨i⟩ table h => by
    match i with
    | 0 => cases h; decide
    | 1 => cases h; decide
    | _ + 2 => cases h
  association := by
    intro m hm
    rw [Array.mem_def] at hm
    simp only [Schema.forum, List.mem_cons, List.not_mem_nil, or_false] at hm
    rcases hm with rfl | rfl <;> decide

/-- News only, from a source that is one of two. -/
def BaseCondition.news : BaseCondition :=
  { condition := "kind = ? AND note <> 'why?' AND source IN (?, ?)"
    values := [.string "news", .int 1, .int 2] }

theorem BaseCondition.news_readable : BaseCondition.news.Readable where
  text :=
    { balanced := by decide
      noDollar := by decide
      apart := by
        have hbounded : ∀ i < BaseCondition.news.condition.toList.length,
            BaseCondition.news.condition.toList[i]? = some '?' →
            Sql.Apart (BaseCondition.news.condition.toList.drop (i + 1)) := by decide
        intro i hmark _
        obtain ⟨hi, -⟩ := List.getElem?_eq_some_iff.mp hmark
        exact hbounded i hi hmark }
  values := by decide

theorem Schema.compile_binds_byline :
    ∃ q, Schema.forum.compile .postgres ⟨0⟩ .byline (some .news) = .ok q
      ∧ q.bindValues = [.string "news", .int 1, .int 2, .string "Ann", .string "Bob"]
      ∧ q.condition.toList.flatMap (fun text => Sql.placeholders false text.toList)
          = ["$1", "$2", "$3", "$4", "$5"] := by
  have hcompile : ∃ q, Schema.forum.compile .postgres ⟨0⟩ .byline (some .news) = .ok q :=
    ⟨_, rfl⟩
  obtain ⟨q, h⟩ := hcompile
  obtain ⟨hvalues, hplaceholders⟩ := Schema.compile_binds h
  have hcolumns : ∀ p ∈ Scope.byline.restrictions, Sql.Clean p.2.column.toList := by decide
  have hbase : ∀ b ∈ some BaseCondition.news, b.Readable := by
    rintro b ⟨⟩
    exact BaseCondition.news_readable
  refine ⟨q, h, hvalues, (hplaceholders Schema.forum_cleanNames hcolumns hbase).trans ?_⟩
  rw [hvalues]
  rfl

end Criteria
