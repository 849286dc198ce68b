import Criteria.Proofs.Filter.Built
import Criteria.Proofs.Filter.Meaning
import Criteria.Proofs.Plan.Joins
import Criteria.Proofs.Sql.Reading

/-!
# The meaning of a compiled condition

The main statement, `compile_meaning`: a compiled condition, read as SQL
reads it, means what the tree of the filter means, and there is no
condition if the tree means nothing.

Planning splices groups, drops empty ones and pulls the bodies of joins
apart, so a part of a condition need not come from one child. What stays
the same is the value that the parts have together under the connective
of their group, which is that of the meanings of the children
(`Node.allParts_meaning`). The induction is on the tree, along a walk over
its sites, which provides the numbers of the placeholders.
-/

namespace Criteria

open Sql (Condition Connective Expr Truth)

/-! ## Values of parts -/

namespace Sql

theorem Connective.fold_toList (k : Connective) (t : Option Truth) : k.fold t.toList = t := by
  cases t <;> rfl

theorem Expr.eval_negateIf (w : Atom → Truth) (negated : Bool) (e : Expr) :
    (Expr.negateIf negated e).eval w = .negateIf negated (e.eval w) := by
  cases negated <;> rfl

theorem Truth.map_negateIf_false (t : Option Truth) : t.map (Truth.negateIf false) = t := by
  cases t <;> rfl

theorem Condition.exprs?_append {xs ys : List Condition} {es fs : List Expr}
    (hx : exprs? xs = some es) (hy : exprs? ys = some fs) :
    exprs? (xs ++ ys) = some (es ++ fs) := by
  induction xs generalizing es with
  | nil =>
      cases hx
      exact hy
  | cons c xs ih =>
      obtain ⟨e, rest, hc, hrest, rfl⟩ := exprs?_cons.mp hx
      exact exprs?_cons.mpr ⟨e, rest ++ fs, hc, ih hrest, rfl⟩

theorem Condition.expr?_negateIf {c : Condition} {e : Expr} (h : c.expr? = some e)
    (negated : Bool) : (negateIf negated c).expr? = some (.negateIf negated e) := by
  cases negated with
  | false => exact h
  | true =>
      exact expr?_not.mpr ⟨e, h, rfl⟩

theorem Condition.exprs?_singleton {c : Condition} {es : List Expr} (h : exprs? [c] = some es) :
    ∃ e, c.expr? = some e ∧ es = [e] := by
  obtain ⟨e, _, he, hrest, rfl⟩ := exprs?_cons.mp h
  cases hrest
  exact ⟨e, he, rfl⟩

/-- Parts combined have the value that they have together. -/
theorem Condition.exprs?_combine (k : Connective) (w : Atom → Truth) {parts : List Condition}
    {es : List Expr} (h : exprs? parts = some es) :
    ∃ es', exprs? (combine k parts).toList = some es'
      ∧ es'.map (Expr.eval w) = (k.fold (es.map (Expr.eval w))).toList := by
  match parts with
  | [] =>
      cases h
      exact ⟨[], rfl, rfl⟩
  | [c] =>
      obtain ⟨e, hc, rfl⟩ := exprs?_singleton h
      exact ⟨[e], h, rfl⟩
  | c :: d :: rest =>
      obtain ⟨e, es', -, -, rfl⟩ := exprs?_cons.mp h
      have hjoined : (Condition.joined k (c :: d :: rest)).expr? = some (es'.foldl k.expr e) :=
        expr?_joined.mpr ⟨e, es', h, rfl⟩
      refine ⟨[es'.foldl k.expr e], exprs?_cons.mpr ⟨_, [], hjoined, rfl, rfl⟩, ?_⟩
      rw [← k.eval_foldl]
      rfl

theorem Condition.exprs?_negateIf {part : Option Condition} {es : List Expr}
    (h : exprs? part.toList = some es) (negated : Bool) :
    exprs? (part.map (negateIf negated)).toList = some (es.map (.negateIf negated)) := by
  cases part with
  | none =>
      cases h
      rfl
  | some c =>
      obtain ⟨e, he, rfl⟩ := exprs?_singleton h
      exact exprs?_cons.mpr ⟨_, [], expr?_negateIf he negated, rfl, rfl⟩

theorem Condition.exprs?_closeGroup (k : Connective) (negated : Bool) (w : Atom → Truth)
    {parts : List Condition} {es : List Expr} (h : exprs? parts = some es) :
    ∃ es', exprs? (closeGroup k negated parts) = some es'
      ∧ es'.map (Expr.eval w)
        = ((k.fold (es.map (Expr.eval w))).map (Truth.negateIf negated)).toList := by
  obtain ⟨es', hes', hvalue⟩ := exprs?_combine k w h
  refine ⟨es'.map (.negateIf negated), exprs?_negateIf hes' negated, ?_⟩
  have heval : (es'.map (.negateIf negated)).map (Expr.eval w)
      = (es'.map (Expr.eval w)).map (Truth.negateIf negated) := by
    rw [List.map_map, List.map_map]
    exact List.map_congr_left fun e _ => Expr.eval_negateIf w negated e
  rw [heval, hvalue, Option.toList_map]

end Sql

open Sql.Condition (exprs?)

/-! ## Meanings of nodes -/

/-- Placeholders numbered on from what is bound before stand for the
values bound there. -/
theorem lookup_range' {before operands values : List Value}
    (h : before ++ operands <+: values) :
    (List.range' (before.length + 1) operands.length).map (fun n => values[n - 1]?)
      = operands.map some := by
  induction operands generalizing before with
  | nil => rfl
  | cons v operands ih =>
      have htail : before ++ [v] ++ operands <+: values := by
        rwa [List.append_assoc, List.singleton_append]
      have hhead : values[before.length]? = some v := by
        obtain ⟨after, rfl⟩ := h
        simp
      have ih := ih htail
      rw [List.length_append, List.length_singleton] at ih
      rw [List.length_cons, List.range'_succ, List.map_cons, List.map_cons, ih,
        Nat.add_sub_cancel, hhead]

section

variable {s : Schema} {subject : Place} {values : List Value}
  (v : Assertion → Truth) (name : List String → String)

theorem Restriction.test?_meaning {r : Restriction} {d : Draft} {form : Sql.TestForm}
    {operands : List Value} (label : String) (hform : r.form d.bound = .ok (form, operands))
    (hvalues : d.values ++ operands <+: values) :
    ∃ t : Sql.Test, r.test? label d.bound = some (.test t)
      ∧ t.expr.eval (fun a => v (a.assertion values))
        = .negateIf r.negated (v (r.assertion label)) := by
  obtain ⟨hoperator, hoperands, hnumbers⟩ := Restriction.form_ok hform
  refine ⟨_, by rw [Restriction.test?, hform], ?_⟩
  have hassertion : Sql.Atom.assertion values ⟨label, r.column, form⟩ = r.assertion label := by
    rw [Sql.Atom.assertion, Restriction.assertion, hoperator, hnumbers, Draft.bound,
      lookup_range' hvalues, hoperands]
  rw [Sql.Test.expr, Expr.eval_negateIf, Expr.eval, hassertion]

mutual

theorem Node.parts_meaning (outer : Connective) {path : List String} {d d' : Draft} :
    ∀ {node : Node}, node.Proper → Walk s subject d (node.sites path) d' →
      d'.values <+: values →
      ∃ es, exprs? (node.parts name path d.bound outer) = some es
        ∧ outer.fold (es.map (Expr.eval fun a => v (a.assertion values)))
          = node.meaning v name path
  | .restriction r, _, hwalk, hvalues => by
      cases hwalk with
      | restriction hreach hform hrest =>
          cases hrest
          obtain ⟨t, ht, hvalue⟩ := Restriction.test?_meaning v (name path) hform hvalues
          refine ⟨[t.expr], ?_, ?_⟩
          · rw [Node.parts, ht]
            rfl
          · rw [Node.meaning, ← hvalue]
            rfl
  | .group ⟨connective, negated, children⟩, hproper, hwalk, hvalues => by
      obtain ⟨es, hes, hfold⟩ := Node.allParts_meaning connective hproper hwalk hvalues
      rw [Node.parts, Node.meaning, ← hfold]
      split
      · rename_i hsame
        simp only [Bool.and_eq_true, decide_eq_true_eq, Bool.not_eq_true'] at hsame
        obtain ⟨rfl, rfl⟩ := hsame
        exact ⟨es, hes, (Truth.map_negateIf_false _).symm⟩
      · obtain ⟨es', hes', hvalue⟩ := Condition.exprs?_closeGroup connective negated
          (fun a => v (a.assertion values)) hes
        refine ⟨es', hes', ?_⟩
        rw [hvalue, Connective.fold_toList]
  | .join association kind ⟨connective, negated, children⟩, hproper, hwalk, hvalues => by
      obtain ⟨rfl, rfl, hchildren⟩ := hproper
      cases hwalk with
      | visit hreach henter hrest =>
          obtain ⟨es, hes, hfold⟩ := Node.allParts_meaning .all hchildren hrest hvalues
          rw [Place.enter_bound henter] at hes
          rw [Node.parts, Node.meaning, ← hfold]
          split
          · rename_i hall
            exact ⟨es, hes, by rw [hall]⟩
          · obtain ⟨es', hes', hvalue⟩ := Condition.exprs?_closeGroup .all false
              (fun a => v (a.assertion values)) hes
            refine ⟨es', hes', ?_⟩
            rw [hvalue, Connective.fold_toList, Truth.map_negateIf_false]

theorem Node.allParts_meaning (outer : Connective) {path : List String} {d d' : Draft} :
    ∀ {nodes : List Node}, Node.AllProper nodes → Walk s subject d (Node.allSites path nodes) d' →
      d'.values <+: values →
      ∃ es, exprs? (Node.allParts name path d.bound outer nodes) = some es
        ∧ outer.fold (es.map (Expr.eval fun a => v (a.assertion values)))
          = outer.fold (Node.meanings v name path nodes)
  | [], _, _, _ => ⟨[], rfl, rfl⟩
  | child :: rest, hproper, hwalk, hvalues => by
      obtain ⟨d₁, hfirst, hrest⟩ := Walk.of_append hwalk
      have hbefore : d₁.values <+: d'.values := hrest.values_prefix
      obtain ⟨es, hes, hvalue⟩ :=
        Node.parts_meaning outer hproper.1 hfirst (hbefore.trans hvalues)
      obtain ⟨fs, hfs, hvalues'⟩ := Node.allParts_meaning outer hproper.2 hrest hvalues
      rw [hfirst.bound] at hfs
      refine ⟨es ++ fs, Condition.exprs?_append hes hfs, ?_⟩
      rw [List.map_append, Connective.fold_append, hvalue, hvalues', Node.meanings,
        Connective.fold_append, Connective.fold_toList]

end

end

/-! ## Compiled conditions -/

section

variable {s : Schema} {id : ModelId} {scope : Scope} {table : String} {d : Draft}

theorem Scope.Built.meaning_eq (h : scope.Built) (v : Assertion → Truth)
    (name : List String → String) :
    scope.meaning v name = Connective.all.fold (Node.meanings v name [] scope.group.children) := by
  obtain ⟨hall, hnegated, -⟩ := h.proper
  obtain ⟨kind, ⟨connective, negated, children⟩, clauses⟩ := scope
  cases hall
  cases hnegated
  exact Truth.map_negateIf_false _

/-- The condition of a filter says what its tree means, whatever truth
values the assertions have. -/
theorem Scope.parts_meaning (hbuilt : scope.Built)
    (hwalk : Walk s ⟨id, table⟩ (.start table none) scope.sites d)
    (name : List String → String) :
    ∃ es, exprs? (Condition.combine .all (scope.parts name none)).toList = some es
      ∧ ∀ v, es.map (Expr.eval fun a => v (a.assertion d.values))
        = (scope.meaning v name).toList := by
  obtain ⟨hall, -, hproper⟩ := hbuilt.proper
  obtain ⟨d₁, htree, hrest⟩ := Walk.of_append hwalk
  have hbefore : d₁.values <+: d.values := hrest.values_prefix
  have hvalue (v : Assertion → Truth) :
      ∃ es, exprs? (Condition.combine .all (scope.parts name none)).toList = some es
        ∧ es.map (Expr.eval fun a => v (a.assertion d.values))
          = (scope.meaning v name).toList := by
    obtain ⟨es, hes, hfold⟩ := Node.allParts_meaning v name .all hproper htree hbefore
    have hparts : exprs? (scope.parts name none) = some es := by
      rw [Scope.parts, hall]
      exact hes
    obtain ⟨es', hes', heval⟩ := Condition.exprs?_combine .all
      (fun a => v (a.assertion d.values)) hparts
    exact ⟨es', hes', by rw [heval, hfold, hbuilt.meaning_eq]⟩
  obtain ⟨es, hes, -⟩ := hvalue fun _ => .unknown
  refine ⟨es, hes, fun v => ?_⟩
  obtain ⟨es', hes', heval⟩ := hvalue v
  cases hes.symm.trans hes'
  exact heval

/-- The text of a planned condition is read as what the condition says. -/
theorem Scope.read_parts {config : Config} {name : List String → String} {c : Condition}
    {e : Expr} (hwalk : Walk s ⟨id, table⟩ (.start table none) scope.sites d)
    (hquote : config.quoteTables = true)
    (hplain : ∀ p ∈ scope.restrictions, Sql.isPlain p.2.column = true)
    (hcondition : Condition.combine .all (scope.parts name none) = some c)
    (he : c.expr? = some e) : Sql.read (c.text config) = some e := by
  have hleaves : c.leaves = Condition.allLeaves (scope.parts name none) := by
    rw [← Condition.allLeaves_combine .all, hcondition]
    exact (List.append_nil _).symm
  have hcolumns : ∀ column ∈ c.leaves.filterMap Condition.column?,
      Sql.isPlain column.2 = true := by
    rw [hleaves, Scope.parts_columns hwalk]
    intro column hmem
    obtain ⟨p, hp, rfl⟩ := List.mem_map.mp hmem
    exact hplain p hp
  have hnumbers : c.leaves.flatMap Condition.numbers = List.range' 1 d.values.length := by
    rw [hleaves, Scope.parts_numbers hwalk]
  exact Condition.read_text hquote he hcolumns hnumbers

/-- A compiled condition is read as an expression that has, under all
truth values of what the restrictions assert, the value of the tree; what
is under a path goes by the name that the joins give it. There is no
condition exactly if the tree has no meaning. -/
theorem Schema.compile_meaning {config : Config} {q : Query} (hbuilt : scope.Built)
    (hquote : config.quoteTables = true)
    (hplain : ∀ p ∈ scope.restrictions, Sql.isPlain p.2.column = true)
    (h : s.compile config id scope none = .ok q) :
    ∃ name, PathNames s id scope name
      ∧ List.Forall₂ (Visit.Clause s id config.quoteTables name) (Visit.firsts scope.visits)
          q.joins
      ∧ (∀ v, q.condition = none ↔ scope.meaning v name = none)
      ∧ ∀ text, q.condition = some text → ∃ e, Sql.read text = some e
        ∧ ∀ v, scope.meaning v name = some (e.eval fun a => v (a.assertion q.bindValues)) := by
  obtain ⟨plan, hplan, rfl⟩ := Schema.compile_ok h
  obtain ⟨table, d, htable, hwalk, hvalues, hjoins, hcondition⟩ := Schema.plan_parts hplan
  have hname := hcondition _ (Draft.namedBy_nameAt s ⟨id, table⟩ d)
  obtain ⟨es, hes, heval⟩ := Scope.parts_meaning hbuilt hwalk (d.nameAt s ⟨id, table⟩)
  rw [← hname] at hes
  have hclauses := hwalk.clauses config.quoteTables
  rw [← hjoins] at hclauses
  refine ⟨d.nameAt s ⟨id, table⟩, .of_walk htable hwalk, hclauses, ?_⟩
  cases hplanned : plan.condition with
  | none =>
      rw [hplanned] at hes
      cases hes
      have hnone (v : Assertion → Truth) : scope.meaning v (d.nameAt s ⟨id, table⟩) = none :=
        Option.toList_eq_nil_iff.mp (heval v).symm
      rw [Plan.query, hplanned]
      refine ⟨fun v => ⟨fun _ => hnone v, fun _ => rfl⟩, ?_⟩
      intro text htext
      cases htext
  | some c =>
      rw [hplanned] at hes
      obtain ⟨e, he, rfl⟩ := Condition.exprs?_singleton hes
      have hmeaning (v : Assertion → Truth) : scope.meaning v (d.nameAt s ⟨id, table⟩)
          = some (e.eval fun a => v (a.assertion d.values)) :=
        Option.toList_eq_singleton_iff.mp (heval v).symm
      have hread : Sql.read (c.text config) = some e :=
        Scope.read_parts hwalk hquote hplain (hname.symm.trans hplanned) he
      rw [Plan.query, hplanned, hvalues]
      refine ⟨fun v => ⟨fun hnone => ?_, fun hnone => ?_⟩, ?_⟩
      · cases hnone
      · rw [hmeaning v] at hnone
        cases hnone
      · intro text htext
        cases htext
        exact ⟨e, hread, hmeaning⟩

end

/-- Neither by Ann nor edited by somebody whose boss has a name. -/
def Step.unsigned : Step :=
  .group .any true [
    .having "author" .inner [
      .restrict "name" false [.compare .equal (.value (.string "Ann"))],
      .group .all true []],
    .having "editor" .left [.having "boss" .inner [.restrict "name" true [.isNull]]]]

theorem Schema.compile_meaning_unsigned :
    ∃ q name text e, Schema.forum.compile {} ⟨0⟩ (Step.unsigned.run [] .root).1 none = .ok q
      ∧ PathNames .forum ⟨0⟩ (Step.unsigned.run [] .root).1 name
      ∧ List.Forall₂ (Visit.Clause .forum ⟨0⟩ true name)
          [⟨[], "author", .inner⟩, ⟨[], "editor", .left⟩, ⟨["editor"], "boss", .inner⟩] q.joins
      ∧ q.condition = some text ∧ Sql.read text = some e
      ∧ ∀ v, some (e.eval fun a => v (a.assertion q.bindValues))
        = (Step.unsigned.run [] .root).1.meaning v name := by
  have hcompile : ∃ q text, q.condition = some text
      ∧ Schema.forum.compile {} ⟨0⟩ (Step.unsigned.run [] .root).1 none = .ok q :=
    ⟨_, _, rfl, rfl⟩
  obtain ⟨q, text, htext, h⟩ := hcompile
  have hplain : ∀ p ∈ (Step.unsigned.run [] .root).1.restrictions,
      Sql.isPlain p.2.column = true := by decide
  obtain ⟨name, hnames, hjoins, -, hmeaning⟩ :=
    Schema.compile_meaning (.call [] .unsigned .root) rfl hplain h
  obtain ⟨e, hread, hvalue⟩ := hmeaning text htext
  exact ⟨q, name, text, e, h, hnames, hjoins, htext, hread, fun v => (hvalue v).symm⟩

end Criteria
