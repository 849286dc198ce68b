import Criteria.Proofs.Sql.Lexing

/-!
# Conditions read back

The main statement, `Condition.read_text`: the text of a condition made
of tests is read as what the condition says. Parentheses stand around the
members of a joined condition and behind every `NOT`, so the reader never
needs to know that one connective binds before another; the invariant of
its machine says how far a group has been read (`Level.Joins`).
-/

namespace Criteria.Sql

/-! ## Numbers of placeholders -/

def Token.placeholder? : Token → Option (Option Nat)
  | .mark n => some n
  | _ => none

theorem settle_numbered {tokens : List Token} (next : Nat) (h : .mark none ∉ tokens) :
    settle next tokens = tokens := by
  induction tokens with
  | nil => rfl
  | cons t tokens ih =>
      obtain ⟨hne, htail⟩ := not_or.mp (mt List.mem_cons.mpr h)
      rw [settle, ih htail]
      exact fun heq => hne heq.symm

theorem settle_question {tokens : List Token} {next count : Nat}
    (h : tokens.filterMap Token.placeholder? = (List.range' next count).map some) :
    settle next (tokens.map (Token.shown .question)) = tokens := by
  induction tokens generalizing next count with
  | nil => rfl
  | cons t tokens ih =>
      cases t with
      | mark n =>
          cases count with
          | zero => simp [Token.placeholder?] at h
          | succ count =>
              simp only [List.filterMap_cons, Token.placeholder?, List.range'_succ, List.map_cons,
                List.cons.injEq] at h
              obtain ⟨rfl, htail⟩ := h
              rw [List.map_cons, Token.shown, settle, ih htail]
      | _ =>
          have htail := ih h
          simpa [Token.shown, settle] using htail

/-- Placeholders that are numbered without gaps have their numbers after
settling, whether these are shown or not; if they are not, it has to begin
with the first of them. -/
theorem settle_shown (style : PlaceholderStyle) {tokens : List Token} {next start count : Nat}
    (h : tokens.filterMap Token.placeholder? = (List.range' start count).map some)
    (hnext : style = .question → next = start) :
    settle next (tokens.map (Token.shown style)) = tokens := by
  cases style with
  | question =>
      rw [hnext rfl]
      exact settle_question h
  | dollar =>
      have hshown : tokens.map (Token.shown .dollar) = tokens := by
        refine (List.map_congr_left fun t _ => ?_).trans (List.map_id _)
        cases t <;> rfl
      have hnumbered : .mark none ∉ tokens := fun hmem => by
        have hnone : none ∈ (List.range' start count).map some :=
          h ▸ List.mem_filterMap.mpr ⟨.mark none, hmem, rfl⟩
        obtain ⟨n, -, hn⟩ := List.mem_map.mp hnone
        cases hn
      rw [hshown, settle_numbered next hnumbered]

theorem placeholders_parenthesizedTokens (tokens : List Token) :
    (parenthesizedTokens tokens).filterMap Token.placeholder?
      = tokens.filterMap Token.placeholder? := by
  simp [parenthesizedTokens, List.filterMap_cons, Token.placeholder?]

namespace Condition

mutual

/-- The placeholders of a condition made of tests are those of its
leaves. -/
theorem tokens_placeholders : ∀ {c : Condition} {e : Expr}, c.expr? = some e →
    c.tokens.filterMap Token.placeholder? = (c.leaves.flatMap numbers).map some
  | .test t, _, _ => by
      rw [tokens, leaves, List.flatMap_singleton, numbers, Test.tokens]
      cases t.form <;> cases t.negated <;> rfl
  | .not c, e, he => by
      obtain ⟨inner, hinner, -⟩ := expr?_not.mp he
      rw [tokens, leaves, List.filterMap_cons_none rfl, placeholders_parenthesizedTokens]
      exact tokens_placeholders hinner
  | .joined k parts, e, he => by
      obtain ⟨_, _, hparts, -⟩ := expr?_joined.mp he
      exact partTokens_placeholders k hparts

theorem partTokens_placeholders (k : Connective) : ∀ {parts : List Condition} {es : List Expr},
    exprs? parts = some es →
      (List.intercalate [.keyword k.keyword] (partTokens parts)).filterMap Token.placeholder?
        = ((allLeaves parts).flatMap numbers).map some
  | [], _, _ => rfl
  | c :: parts, es, hes => by
      obtain ⟨e, es', he, hes', -⟩ := exprs?_cons.mp hes
      rw [allLeaves, List.flatMap_append, List.map_append, ← tokens_placeholders he,
        ← partTokens_placeholders k hes', ← placeholders_parenthesizedTokens c.tokens]
      cases parts with
      | nil => simp [partTokens]
      | cons d parts =>
          rw [partTokens, partTokens, List.intercalate_cons_cons, List.filterMap_append,
            List.filterMap_append, List.filterMap_cons_none rfl, List.filterMap_nil,
            List.append_nil]

end

end Condition

/-! ## Operands -/

def Test.items (t : Test) : List Item :=
  match t.form, t.negated with
  | .compare .., true =>
    [.not, .opening, .operand (.atom ⟨t.label, t.column, t.form⟩), .closing]
  | _, _ => [.operand t.expr]

def Connective.item : Connective → Item
  | .all => .and
  | .any => .or

def parenthesizedItems (items : List Item) : List Item := [.opening] ++ items ++ [.closing]

namespace Condition

mutual

/-- The items of a condition that is made of tests. -/
def items : Condition → List Item
  | .given .. => []
  | .test t => t.items
  | .not c => .not :: parenthesizedItems (items c)
  | .joined k parts => List.intercalate [k.item] (partItems parts)
termination_by structural c => c

def partItems : List Condition → List (List Item)
  | [] => []
  | c :: rest => parenthesizedItems (items c) :: partItems rest
termination_by structural l => l

end

end Condition

theorem operands_test (t : Test) (rest : List Token) :
    operands (t.tokens ++ rest) = (operands rest).map (t.items ++ ·) := by
  unfold Test.tokens Test.items Test.expr
  obtain ⟨label, column, negated, form⟩ := t
  cases form <;> cases negated <;>
    simp [operands, Expr.negateIf, Function.comp_def]

theorem operands_parenthesized {tokens : List Token} {items : List Item}
    (h : ∀ rest, operands (tokens ++ rest) = (operands rest).map (items ++ ·))
    (rest : List Token) :
    operands (parenthesizedTokens tokens ++ rest)
      = (operands rest).map (parenthesizedItems items ++ ·) := by
  show operands (.opening :: (tokens ++ [.closing] ++ rest)) = _
  rw [operands, List.append_assoc, h, List.singleton_append, operands]
  simp [parenthesizedItems, Function.comp_def]

theorem operands_connective (k : Connective) (rest : List Token) :
    operands (.keyword k.keyword :: rest) = (operands rest).map (k.item :: ·) := by
  cases k <;> rfl

namespace Condition

mutual

theorem operands_tokens : ∀ {c : Condition} {e : Expr}, c.expr? = some e → ∀ rest,
    operands (c.tokens ++ rest) = (operands rest).map (c.items ++ ·)
  | .test t, _, _, rest => operands_test t rest
  | .not c, e, he, rest => by
      obtain ⟨inner, hinner, -⟩ := expr?_not.mp he
      have hc := operands_parenthesized (operands_tokens hinner)
      rw [tokens, items, List.cons_append, operands, hc]
      simp [Function.comp_def]
  | .joined k parts, e, he, rest => by
      obtain ⟨_, _, hparts, -⟩ := expr?_joined.mp he
      exact operands_partTokens k hparts rest

theorem operands_partTokens (k : Connective) : ∀ {parts : List Condition} {es : List Expr},
    exprs? parts = some es → ∀ rest,
      operands (List.intercalate [.keyword k.keyword] (partTokens parts) ++ rest)
        = (operands rest).map (List.intercalate [k.item] (partItems parts) ++ ·)
  | [], _, _, rest => by
      simp [partTokens, partItems]
  | c :: parts, es, hes, rest => by
      obtain ⟨e, es', he, hes', -⟩ := exprs?_cons.mp hes
      have hc := operands_parenthesized (operands_tokens he)
      have hparts := operands_partTokens k hes' rest
      cases parts with
      | nil =>
          rw [partTokens, partItems, partTokens, partItems, List.intercalate_singleton,
            List.intercalate_singleton]
          exact hc rest
      | cons d parts =>
          simp only [partTokens, partItems, List.intercalate_cons_cons, List.append_assoc,
            List.singleton_append] at hparts ⊢
          rw [hc, List.cons_append, operands_connective, hparts]
          simp [Function.comp_def]

end

end Condition

/-! ## The machine -/

namespace Machine

theorem run_append (xs ys : List Item) (m : Machine) :
    m.run (xs ++ ys) = (m.run xs).bind fun next => next.run ys := by
  induction xs generalizing m with
  | nil => rfl
  | cons i xs ih =>
      rw [List.cons_append, run, run, Option.bind_assoc]
      exact Option.bind_congr fun next _ => ih next

/-- The items have been read as the expression: it is all there is at a
level that starts with them. -/
def Reads (items : List Item) (e : Expr) : Prop :=
  ∀ outer, ∃ level : Level, level.expr? = some e
    ∧ ({ outer } : Machine).run items = some { outer, level, full := true }

/-- What stands in parentheses is one operand. -/
theorem run_parenthesized {items : List Item} {e : Expr} (h : Reads items e)
    (outer : List Level) (level : Level) :
    ({ outer, level } : Machine).run (parenthesizedItems items)
      = some { outer, level := level.take e, full := true } := by
  obtain ⟨inner, hexpr, hrun⟩ := h (level :: outer)
  rw [parenthesizedItems, List.append_assoc, List.singleton_append, run, step]
  show (({ outer := level :: outer } : Machine).run (items ++ [.closing])) = _
  rw [run_append, hrun]
  simp [run, step, hexpr]

end Machine

/-- A level where members of a group have been read that say this much
together. -/
structure Level.Joins (k : Connective) (level : Level) (e : Expr) : Prop where
  expr : level.expr? = some e
  nots : level.nots = 0
  any : k = .all → level.any = none

namespace Machine

/-- One more member of a group. -/
theorem run_member {k : Connective} (outer : List Level) {level : Level} {before e : Expr}
    {items : List Item} (hlevel : level.Joins k before) (h : Reads items e) :
    ∃ next : Level, next.Joins k (k.expr before e)
      ∧ ({ outer, level, full := true } : Machine).run (k.item :: parenthesizedItems items)
        = some { outer, level := next, full := true } := by
  obtain ⟨hexpr, hnots, hany⟩ := hlevel
  cases k with
  | all =>
      have hall : level.all = some before := by
        rw [Level.expr?, hany rfl] at hexpr
        exact hexpr
      refine ⟨level.take e, ⟨?_, rfl, fun _ => hany rfl⟩, ?_⟩
      · simp [Level.take, Level.expr?, hany rfl, hall, hnots, Level.negated, Connective.expr,
          Nat.repeat]
      · exact run_parenthesized h outer level
  | any =>
      refine ⟨Level.take { any := some before } e, ⟨rfl, rfl, nofun⟩, ?_⟩
      show ({ outer, level := { any := level.expr? } } : Machine).run (parenthesizedItems items) = _
      rw [hexpr]
      exact run_parenthesized h outer _

theorem reads_test (t : Test) : Reads t.items t.expr := by
  intro outer
  unfold Test.items Test.expr
  obtain ⟨label, column, negated, form⟩ := t
  cases form <;> cases negated <;> exact ⟨_, rfl, rfl⟩

theorem reads_not {items : List Item} {e : Expr} (h : Reads items e) :
    Reads (.not :: parenthesizedItems items) (.not e) := by
  intro outer
  exact ⟨Level.take { nots := 1 } e, rfl, run_parenthesized h outer { nots := 1 }⟩

end Machine

/-- Lists strung together, from the first on. -/
theorem intercalate_eq_append {α : Type} (x : α) (first : List α) (rest : List (List α)) :
    List.intercalate [x] (first :: rest) = first ++ rest.flatMap (x :: ·) := by
  induction rest generalizing first with
  | nil => simp
  | cons second rest ih => simp [ih]

namespace Condition

open Machine (Reads)

mutual

theorem reads_items : ∀ {c : Condition} {e : Expr}, c.expr? = some e → Reads c.items e
  | .test t, _, he => by
      cases he
      exact Machine.reads_test t
  | .not c, _, he => by
      obtain ⟨inner, hinner, rfl⟩ := expr?_not.mp he
      exact Machine.reads_not (reads_items hinner)
  | .joined k [], _, he => by
      cases he
  | .joined k (c :: parts), _, he => by
      obtain ⟨first, rest, hparts, rfl⟩ := expr?_joined.mp he
      obtain ⟨_, _, hc, hrest, hes⟩ := exprs?_cons.mp hparts
      cases hes
      intro outer
      have hfirst := Machine.run_parenthesized (reads_items hc) outer {}
      have hjoins : (Level.take {} first).Joins k first := ⟨rfl, rfl, fun _ => rfl⟩
      obtain ⟨level, hlevel, hrun⟩ := reads_partItems k outer hrest hjoins
      refine ⟨level, hlevel.expr, ?_⟩
      rw [items, partItems, intercalate_eq_append, Machine.run_append, hfirst]
      exact hrun

/-- The invariant of a group: however many members have been read, they
join to an expression of their own. -/
theorem reads_partItems (k : Connective) (outer : List Level) : ∀ {parts : List Condition}
    {es : List Expr} {level : Level} {before : Expr}, exprs? parts = some es →
      level.Joins k before →
      ∃ next : Level, next.Joins k (es.foldl k.expr before)
        ∧ ({ outer, level, full := true } : Machine).run
            ((partItems parts).flatMap (k.item :: ·))
          = some { outer, level := next, full := true }
  | [], _, level, _, hes, hlevel => by
      cases hes
      exact ⟨level, hlevel, rfl⟩
  | c :: parts, _, level, before, hes, hlevel => by
      obtain ⟨e, rest, hc, hrest, rfl⟩ := exprs?_cons.mp hes
      obtain ⟨next, hnext, hmember⟩ := Machine.run_member outer hlevel (reads_items hc)
      obtain ⟨last, hlast, hrun⟩ := reads_partItems k outer hrest hnext
      refine ⟨last, hlast, ?_⟩
      rw [partItems, List.flatMap_cons, Machine.run_append, hmember]
      exact hrun

end

end Condition

/-! ## Texts -/

/-- A text is read by one stage after the other. -/
theorem read_eq_some {text : String} {e : Expr} : read text = some e
    ↔ ∃ tokens items m, lex .blank text.toList = some tokens
      ∧ operands (settle 1 tokens) = some items ∧ ({} : Machine).run items = some m
      ∧ m.result? = some e := by
  constructor
  · intro h
    obtain ⟨tokens, hlex, h⟩ := Option.bind_eq_some_iff.mp h
    obtain ⟨items, hitems, h⟩ := Option.bind_eq_some_iff.mp h
    obtain ⟨m, hrun, hresult⟩ := Option.bind_eq_some_iff.mp h
    exact ⟨tokens, items, m, hlex, hitems, hrun, hresult⟩
  · rintro ⟨tokens, items, m, hlex, hitems, hrun, hresult⟩
    exact Option.bind_eq_some_iff.mpr ⟨tokens, hlex, Option.bind_eq_some_iff.mpr
      ⟨items, hitems, Option.bind_eq_some_iff.mpr ⟨m, hrun, hresult⟩⟩⟩

namespace Condition

/-- The whole text of a condition is cut into its tokens. -/
theorem lex_whole {config : Config} {c : Condition} {e : Expr}
    (hquote : config.quoteTables = true) (he : c.expr? = some e)
    (hplain : ∀ column ∈ c.leaves.filterMap column?, isPlain column.2 = true) :
    lex .blank (c.text config).toList
      = some (c.tokens.map (Token.shown config.placeholders)) := by
  have htext := lex_text hquote he hplain [] fun _ h => nomatch h
  rw [List.append_nil] at htext
  rw [htext]
  simp [lex, Piece.close, emit]

theorem operands_whole {c : Condition} {e : Expr} (he : c.expr? = some e) :
    operands c.tokens = some c.items := by
  have htokens := operands_tokens he []
  rw [List.append_nil] at htokens
  rw [htokens]
  simp [operands]

/-- The text of a condition is read as what the condition says. -/
theorem read_text {config : Config} {c : Condition} {e : Expr} {count : Nat}
    (hquote : config.quoteTables = true) (he : c.expr? = some e)
    (hplain : ∀ column ∈ c.leaves.filterMap column?, isPlain column.2 = true)
    (hnumbers : c.leaves.flatMap numbers = List.range' 1 count) :
    read (c.text config) = some e := by
  have hsettle : settle 1 (c.tokens.map (Token.shown config.placeholders)) = c.tokens :=
    settle_shown config.placeholders (hnumbers ▸ tokens_placeholders he) fun _ => rfl
  obtain ⟨level, hexpr, hrun⟩ := reads_items he []
  refine read_eq_some.mpr ⟨_, c.items, _, lex_whole hquote he hplain, ?_, hrun, hexpr⟩
  rw [hsettle]
  exact operands_whole he

end Condition

/-- Without parentheses, precedence decides. -/
example : read "NOT \"a\".b = ? OR \"a\".c BETWEEN ? AND ? AND \"a\".d IS NULL"
    = some (.or (.not (.atom ⟨"a", "b", .compare .equal 1⟩))
        (.and (.atom ⟨"a", "c", .between 2 3⟩) (.atom ⟨"a", "d", .isNull⟩))) := by
  decide

end Criteria.Sql
