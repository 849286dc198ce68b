import Criteria.Proofs.Sql.Reading
import Criteria.Proofs.Sql.Shift
import Criteria.Proofs.Sql.Truth

/-!
# A condition behind a guard

A text that is read as an expression of its own, put in parentheses before
the parts of a condition. Each stage of the reader does with it what it
does with it alone and goes on behind it (`lex_append_closing`, `settle_append`,
`operands_append`, `Machine.run_frame`). So the whole is read as the
conjunction of the two, whatever connectives the text has on its outside
(`read_guarded`).
-/

namespace Criteria.Sql

/-! ## The stages of the reader -/

/-- A text that can be cut ends before a parenthesis that closes. -/
theorem lex_append_closing {p : Piece} {text : List Char} {tokens : List Token}
    (h : lex p text = some tokens) (rest : List Char) :
    lex p (text ++ ')' :: rest) = emit (tokens ++ [.closing]) (lex .blank rest) := by
  induction text generalizing p tokens with
  | nil =>
      have hextend : p.extend ')' = none := by
        cases p <;> first | rfl | cases h
      have hclose : p.close = some tokens := h
      rw [List.nil_append, lex, hextend, hclose]
      rfl
  | cons c text ih =>
      rw [List.cons_append, lex]
      rw [lex] at h
      cases hextend : p.extend c with
      | some longer =>
          simp only [hextend] at h ⊢
          exact ih h
      | none =>
          cases hclose : p.close with
          | none => simp [hextend, hclose] at h
          | some done =>
              cases hbegin : p.begin c with
              | none => simp [hextend, hclose, hbegin] at h
              | some begun =>
                  simp only [hextend, hclose, hbegin] at h ⊢
                  obtain ⟨more, hmore, rfl⟩ := Option.map_eq_some_iff.mp h
                  rw [ih hmore, emit_emit, List.append_assoc _ more]

/-- A text in parentheses, and another one behind it. -/
theorem lex_guarded {guard text : String} {tokens further : List Token}
    (hguard : lex .blank guard.toList = some tokens)
    (htext : lex .blank text.toList = some further) :
    lex .blank (Condition.parenthesized guard ++ Connective.all.separator ++ text).toList
      = some (parenthesizedTokens tokens ++ .keyword .and :: further) := by
  simp only [Condition.parenthesized, String.toList_append, List.append_assoc]
  show lex .blank ('(' :: (guard.toList
    ++ ')' :: (Connective.all.separator.toList ++ text.toList))) = _
  rw [lex_opening, lex_append_closing hguard, lex_separator, htext]
  simp [emit, Connective.keyword, parenthesizedTokens]

theorem settle_append (next : Nat) (xs ys : List Token) :
    settle next (xs ++ ys) = settle next xs ++ settle (next + xs.count (.mark none)) ys := by
  induction xs generalizing next with
  | nil => rfl
  | cons t xs ih =>
      by_cases hopen : t = .mark none
      · subst hopen
        rw [List.cons_append, settle, settle, ih, List.count_cons_self, List.cons_append,
          Nat.add_assoc, Nat.add_comm 1]
      · rw [List.cons_append, settle, settle, ih, List.count_cons_of_ne hopen, List.cons_append]
        · exact hopen
        · exact hopen

theorem settle_guarded (next : Nat) (xs ys : List Token) :
    settle next (parenthesizedTokens xs ++ .keyword .and :: ys)
      = parenthesizedTokens (settle next xs)
        ++ .keyword .and :: settle (next + xs.count (.mark none)) ys := by
  rw [parenthesizedTokens, List.append_assoc, List.append_assoc, settle_append, settle_append,
    settle_append]
  simp [settle, parenthesizedTokens]

theorem operands_append {tokens : List Token} {items : List Item}
    (h : operands tokens = some items) (rest : List Token) :
    operands (tokens ++ rest) = (operands rest).map (items ++ ·) := by
  induction tokens using operands.induct generalizing items
  -- no token is left, or none of the forms begins here; otherwise a form and what follows it
  case case1 =>
    cases h
    simp
  case case16 =>
    simp_all [operands]
  all_goals
    rename_i ih
    obtain ⟨more, hmore, rfl⟩ := Option.map_eq_some_iff.mp h
    simp only [List.cons_append, operands, ih hmore, Option.map_map, Function.comp_def]

namespace Machine

/-- The parentheses further out are not touched. -/
theorem step_frame {m next : Machine} {i : Item} (h : m.step i = some next) (outer : List Level) :
    ({ m with outer := m.outer ++ outer } : Machine).step i
      = some { next with outer := next.outer ++ outer } := by
  obtain ⟨levels, level, full⟩ := m
  cases i with
  | closing =>
      cases levels with
      | nil => cases full <;> cases h
      | cons l levels =>
          cases full with
          | false => cases h
          | true =>
              cases hexpr : level.expr? with
              | none => simp [step, hexpr] at h
              | some e =>
                  simp only [step, hexpr, Option.some.injEq] at h ⊢
                  subst h
                  rfl
  | operand _ | not | opening =>
      cases full with
      | false =>
          cases h
          rfl
      | true => cases h
  | and | or =>
      cases full with
      | false => cases h
      | true =>
          cases h
          rfl

theorem run_frame {m next : Machine} {items : List Item} (h : m.run items = some next)
    (outer : List Level) : ({ m with outer := m.outer ++ outer } : Machine).run items
      = some { next with outer := next.outer ++ outer } := by
  induction items generalizing m with
  | nil =>
      cases h
      rfl
  | cons i items ih =>
      rw [run] at h ⊢
      obtain ⟨after, hstep, hrun⟩ := Option.bind_eq_some_iff.mp h
      rw [step_frame hstep, Option.bind_some, ih hrun]

/-- What can be read on its own can be read in parentheses. -/
theorem reads_of_result {m : Machine} {items : List Item} {e : Expr}
    (hrun : ({} : Machine).run items = some m) (he : m.result? = some e) : Reads items e := by
  intro outer
  obtain ⟨levels, level, full⟩ := m
  rw [result?] at he
  split at he
  · rename_i hdone
    simp only [Bool.and_eq_true, List.isEmpty_iff] at hdone
    obtain ⟨rfl, rfl⟩ := hdone
    exact ⟨level, he, run_frame hrun outer⟩
  · cases he

end Machine

/-! ## The whole -/

/-- The question marks that a text is read with. -/
def openMarks (text : String) : Nat := ((lex .blank text.toList).getD []).count (.mark none)

/-- A text in parentheses, and the parts of a condition behind it. -/
theorem conjoined_guard {config : Config} (guard : String) (c : Condition)
    (parts : List Condition) : conjoined (guard :: (c :: parts).map (Condition.text config))
      = some (Condition.parenthesized guard ++ Connective.all.separator
          ++ Connective.all.separator.intercalate (Condition.partTexts config (c :: parts))) := by
  rw [Condition.partTexts_eq_map, List.map_cons, List.map_cons, ← String.intercalate_cons_cons]
  rfl

/-- Parts whose placeholders come after the `k` of a text that is read on
its own are read as so many conditions more. -/
theorem read_guarded {config : Config} {guard : String} {e : Expr} {k count : Nat}
    {parts : List Condition} {es : List Expr} (hguard : read guard = some e)
    (hmarks : config.placeholders = .question → openMarks guard = k)
    (hquote : config.quoteTables = true) (hes : Condition.exprs? parts = some es)
    (hplain : ∀ column ∈ (Condition.allLeaves parts).filterMap Condition.column?,
      isPlain column.2 = true)
    (hnumbers : (Condition.allLeaves parts).flatMap Condition.numbers = List.range' (k + 1) count) :
    ∃ text, conjoined (guard :: parts.map (Condition.text config)) = some text
      ∧ read text = some (es.foldl .and e) := by
  cases parts with
  | nil =>
      cases hes
      exact ⟨guard, rfl, hguard⟩
  | cons c parts =>
      obtain ⟨tokens, items, m, hlex, hitems, hrun, hresult⟩ := read_eq_some.mp hguard
      -- what stands behind the guard is a condition of its own
      let further : Condition := .joined .all (c :: parts)
      obtain ⟨f, hf⟩ : ∃ f, further.expr? = some f := by
        obtain ⟨first, rest, -, -, rfl⟩ := Condition.exprs?_cons.mp hes
        exact ⟨_, Condition.expr?_joined.mpr ⟨first, rest, hes, rfl⟩⟩
      have hsettle : settle (1 + tokens.count (.mark none))
          (further.tokens.map (Token.shown config.placeholders)) = further.tokens := by
        refine settle_shown config.placeholders
          (hnumbers ▸ Condition.tokens_placeholders hf) fun hstyle => ?_
        rw [← hmarks hstyle, openMarks, hlex, Option.getD_some, Nat.add_comm]
      have hjoins : (Level.take {} e).Joins .all e := ⟨rfl, rfl, fun _ => rfl⟩
      obtain ⟨level, hlevel, hmembers⟩ := Condition.reads_partItems .all [] hes hjoins
      refine ⟨_, conjoined_guard guard c parts, read_eq_some.mpr
        ⟨_, parenthesizedItems items ++ .and :: further.items, { level, full := true },
          lex_guarded hlex (Condition.lex_whole hquote hf hplain), ?_, ?_, hlevel.expr⟩⟩
      · rw [settle_guarded, hsettle, operands_parenthesized (operands_append hitems), operands,
          Condition.operands_whole hf]
        rfl
      · rw [Machine.run_append, Machine.run_parenthesized (Machine.reads_of_result hrun hresult),
          Condition.items, Condition.partItems, intercalate_eq_append]
        exact hmembers

/-! ## Placeholders after those of the guard -/

def Atom.shift (k : Nat) (a : Atom) : Atom := { a with form := a.form.shift k }

namespace Expr

/-- The expression with its placeholders after `k` others. -/
def shift (k : Nat) : Expr → Expr
  | .atom a => .atom (a.shift k)
  | .not e => .not (e.shift k)
  | .and e f => .and (e.shift k) (f.shift k)
  | .or e f => .or (e.shift k) (f.shift k)

theorem eval_shift (k : Nat) (v : Atom → Truth) (e : Expr) :
    (e.shift k).eval v = e.eval fun a => v (a.shift k) := by
  induction e with
  | atom a => rfl
  | not e ih => rw [shift, eval, eval, ih]
  | and e f ihe ihf => rw [shift, eval, eval, ihe, ihf]
  | or e f ihe ihf => rw [shift, eval, eval, ihe, ihf]

theorem shift_foldl (k : Nat) (connective : Connective) (e : Expr) (rest : List Expr) :
    (rest.foldl connective.expr e).shift k
      = (rest.map (shift k)).foldl connective.expr (e.shift k) := by
  induction rest generalizing e with
  | nil => rfl
  | cons f rest ih =>
      rw [List.foldl_cons, ih, List.map_cons, List.foldl_cons]
      cases connective <;> rfl

end Expr

namespace Condition

theorem expr_shift (k : Nat) (t : Test) :
    Test.expr { t with form := t.form.shift k } = t.expr.shift k := by
  unfold Test.expr
  cases t.negated <;> rfl

mutual

theorem expr?_shift (k : Nat) : ∀ {c : Condition} {e : Expr}, c.expr? = some e →
    (c.shift k).expr? = some (e.shift k)
  | .test t, _, he => by
      cases he
      exact congrArg some (expr_shift k t)
  | .not c, _, he => by
      obtain ⟨f, hf, rfl⟩ := expr?_not.mp he
      exact expr?_not.mpr ⟨_, expr?_shift k hf, rfl⟩
  | .joined connective parts, _, he => by
      obtain ⟨first, rest, hparts, rfl⟩ := expr?_joined.mp he
      exact expr?_joined.mpr ⟨_, _, exprs?_shiftAll k hparts, Expr.shift_foldl k connective ..⟩

theorem exprs?_shiftAll (k : Nat) : ∀ {parts : List Condition} {es : List Expr},
    exprs? parts = some es → exprs? (shiftAll k parts) = some (es.map (Expr.shift k))
  | [], _, hes => by
      cases hes
      rfl
  | c :: rest, _, hes => by
      obtain ⟨e, fs, hc, hrest, rfl⟩ := exprs?_cons.mp hes
      exact exprs?_cons.mpr ⟨_, _, expr?_shift k hc, exprs?_shiftAll k hrest, rfl⟩

end

variable {given : Truth} {v : Atom → Truth}

mutual

theorem truth?_shift (k : Nat) : ∀ c : Condition,
    (c.shift k).truth? given v = c.truth? given fun a => v (a.shift k)
  | .given .. => rfl
  | .test t => by
      rw [shift, truth?, truth?, expr_shift, Expr.eval_shift]
  | .not c => by rw [shift, truth?, truth?, truth?_shift k c]
  | .joined connective parts => by rw [shift, truth?, truth?, truths?_shiftAll k parts]

theorem truths?_shiftAll (k : Nat) : ∀ parts : List Condition,
    truths? given v (shiftAll k parts) = truths? given (fun a => v (a.shift k)) parts
  | [] => rfl
  | c :: rest => by rw [shiftAll, truths?, truths?, truth?_shift k c, truths?_shiftAll k rest]

end

theorem combine_truth_shift (k : Nat) (connective : Connective) (parts : List Condition) :
    (combine connective (parts.map (shift k))).bind (truth? given v)
      = (combine connective parts).bind (truth? given fun a => v (a.shift k)) := by
  rw [combine_shift, Option.bind_map]
  exact Option.bind_congr fun c _ => truth?_shift k c

/-- What a condition of several parts says is what these say together. -/
theorem exprs?_of_combine {connective : Connective} {parts : List Condition} {c : Condition}
    {e : Expr} (hc : combine connective parts = some c) (he : c.expr? = some e) :
    ∃ first rest, exprs? parts = some (first :: rest) ∧ e = rest.foldl connective.expr first := by
  match parts with
  | [] => cases hc
  | [_] =>
      cases hc
      exact ⟨e, [], exprs?_cons.mpr ⟨e, [], he, rfl, rfl⟩, rfl⟩
  | _ :: _ :: _ =>
      cases hc
      exact expr?_joined.mp he

end Condition

/-- A guard in front of members of a conjunction is a conjunct of all. -/
theorem Expr.eval_guard (v : Atom → Truth) (guard first : Expr) (rest : List Expr) :
    ((first :: rest).foldl .and guard).eval v
      = (guard.eval v).and ((rest.foldl .and first).eval v) := by
  have hall := Connective.all.eval_foldl v guard (first :: rest)
  have hrest := Connective.all.eval_foldl v first rest
  have hlots := Connective.all.fold_append [guard.eval v] ((first :: rest).map (Expr.eval v))
  rw [← hrest] at hlots
  exact Option.some.inj (hall.trans hlots)

end Criteria.Sql
