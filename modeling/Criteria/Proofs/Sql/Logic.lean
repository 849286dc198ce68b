import Criteria.Sql.Condition

/-!
# Logic of conditions

What a condition says once its tests have truth values. There are three
of these, since a comparison with null is neither true nor false.
Conjunction and disjunction are associative, so the members of a group
have one value together (`Connective.fold`), however they are bracketed.
-/

namespace Criteria.Sql

/-! ## Truth -/

inductive Truth where
  | no
  | unknown
  | yes
deriving DecidableEq, Repr

namespace Truth

def not : Truth → Truth
  | no => yes
  | unknown => unknown
  | yes => no

def and : Truth → Truth → Truth
  | no, _ => no
  | yes, t => t
  | unknown, no => no
  | unknown, _ => unknown

def or : Truth → Truth → Truth
  | yes, _ => yes
  | no, t => t
  | unknown, yes => yes
  | unknown, _ => unknown

theorem and_assoc (a b c : Truth) : (a.and b).and c = a.and (b.and c) := by
  cases a <;> cases b <;> cases c <;> rfl

/-- A conjunction holds if both members do. -/
theorem and_eq_yes {a b : Truth} : a.and b = .yes ↔ a = .yes ∧ b = .yes := by
  cases a <;> cases b <;> decide

theorem or_assoc (a b c : Truth) : (a.or b).or c = a.or (b.or c) := by
  cases a <;> cases b <;> cases c <;> rfl

def negateIf (negated : Bool) (t : Truth) : Truth := if negated then t.not else t

end Truth

/-! ## Connectives -/

namespace Connective

def truth : Connective → Truth → Truth → Truth
  | .all => Truth.and
  | .any => Truth.or

theorem truth_assoc (k : Connective) (a b c : Truth) :
    k.truth (k.truth a b) c = k.truth a (k.truth b c) := by
  cases k with
  | all => exact Truth.and_assoc a b c
  | any => exact Truth.or_assoc a b c

/-- The value of all members together; no members have none. -/
def fold (k : Connective) : List Truth → Option Truth
  | [] => none
  | t :: rest => some (rest.foldl k.truth t)

theorem foldl_truth (k : Connective) (a b : Truth) (rest : List Truth) :
    rest.foldl k.truth (k.truth a b) = k.truth a (rest.foldl k.truth b) := by
  induction rest generalizing b with
  | nil => rfl
  | cons c rest ih => rw [List.foldl_cons, List.foldl_cons, truth_assoc, ih]

/-- Members may be taken together in two lots. -/
theorem fold_append (k : Connective) (xs ys : List Truth) :
    k.fold (xs ++ ys) = Option.merge k.truth (k.fold xs) (k.fold ys) := by
  cases xs with
  | nil => cases ys <;> rfl
  | cons x xs =>
      cases ys with
      | nil =>
          rw [List.append_nil]
          rfl
      | cons y ys =>
          rw [List.cons_append, fold, List.foldl_append, List.foldl_cons, foldl_truth]
          rfl

end Connective

/-! ## Expressions -/

/-- A test without its negation. -/
structure Atom where
  label : String
  column : String
  form : TestForm
deriving DecidableEq, Repr

inductive Expr where
  | atom (a : Atom)
  | not (e : Expr)
  | and (e f : Expr)
  | or (e f : Expr)
deriving DecidableEq, Repr

namespace Expr

def eval (v : Atom → Truth) : Expr → Truth
  | .atom a => v a
  | .not e => (e.eval v).not
  | .and e f => (e.eval v).and (f.eval v)
  | .or e f => (e.eval v).or (f.eval v)

def negateIf (negated : Bool) (e : Expr) : Expr := if negated then .not e else e

end Expr

/-- Two expressions under a connective. -/
def Connective.expr : Connective → Expr → Expr → Expr
  | .all => .and
  | .any => .or

theorem Connective.eval_expr (k : Connective) (v : Atom → Truth) (e f : Expr) :
    (k.expr e f).eval v = k.truth (e.eval v) (f.eval v) := by
  cases k <;> rfl

/-- A group of expressions has the value of its members together. -/
theorem Connective.eval_foldl (k : Connective) (w : Atom → Truth) (e : Expr) (rest : List Expr) :
    some ((rest.foldl k.expr e).eval w) = k.fold ((e :: rest).map (Expr.eval w)) := by
  induction rest generalizing e with
  | nil => rfl
  | cons f rest ih =>
      rw [List.foldl_cons, ih, List.map_cons, List.map_cons, List.map_cons, Connective.fold,
        Connective.fold, List.foldl_cons, Connective.eval_expr]

/-! ## Conditions as expressions -/

/-- What a test says. -/
def Test.expr (t : Test) : Expr := .negateIf t.negated (.atom ⟨t.label, t.column, t.form⟩)

namespace Condition

mutual

/-- What a condition says, if it is made of tests. -/
def expr? : Condition → Option Expr
  | .given .. => none
  | .test t => some t.expr
  | .not c => (expr? c).map .not
  | .joined k parts =>
    match exprs? parts with
    | some (e :: rest) => some (rest.foldl k.expr e)
    | _ => none
termination_by structural c => c

def exprs? : List Condition → Option (List Expr)
  | [] => some []
  | c :: rest =>
    match expr? c, exprs? rest with
    | some e, some es => some (e :: es)
    | _, _ => none
termination_by structural l => l

end

theorem expr?_not {c : Condition} {e : Expr} :
    (Condition.not c).expr? = some e ↔ ∃ f, c.expr? = some f ∧ e = .not f := by
  rw [expr?, Option.map_eq_some_iff]
  simp only [eq_comm]

/-- A joined condition has a first member. -/
theorem expr?_joined {k : Connective} {parts : List Condition} {e : Expr} :
    (Condition.joined k parts).expr? = some e
      ↔ ∃ first rest, exprs? parts = some (first :: rest) ∧ e = rest.foldl k.expr first := by
  rw [expr?]
  cases exprs? parts with
  | none => simp
  | some es =>
      cases es with
      | nil => simp
      | cons first rest =>
          constructor
          · rintro ⟨⟩
            exact ⟨first, rest, rfl, rfl⟩
          · rintro ⟨_, _, hes, rfl⟩
            cases hes
            rfl

theorem exprs?_cons {c : Condition} {parts : List Condition} {es : List Expr} :
    exprs? (c :: parts) = some es
      ↔ ∃ e fs, c.expr? = some e ∧ exprs? parts = some fs ∧ es = e :: fs := by
  rw [exprs?]
  cases c.expr? with
  | none => simp
  | some e => cases exprs? parts <;> simp [eq_comm]

end Condition

end Criteria.Sql
