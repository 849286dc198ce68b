import Criteria.Proofs.Sql.Logic

/-!
# Truth of conditions

What a condition says whatever its tests say, with a truth value for the
condition from elsewhere as well. Where there is none of those this is the
value of the expression that the condition is read as (`truth?_expr`).

A conjunction holds only if its first parts do (`combine_all_yes`), so a
condition with further parts at its end holds in fewer places.
-/

namespace Criteria.Sql.Condition

mutual

/-- The value of a condition, where `given` is that of a condition from
elsewhere; a conjunction of nothing has none. -/
def truth? (given : Truth) (v : Atom → Truth) : Condition → Option Truth
  | .given .. => some given
  | .test t => some (t.expr.eval v)
  | .not c => (truth? given v c).map .not
  | .joined k parts => (truths? given v parts).bind k.fold
termination_by structural c => c

def truths? (given : Truth) (v : Atom → Truth) : List Condition → Option (List Truth)
  | [] => some []
  | c :: rest =>
    match truth? given v c, truths? given v rest with
    | some t, some ts => some (t :: ts)
    | _, _ => none
termination_by structural l => l

end

variable {given : Truth} {v : Atom → Truth}

theorem truths?_cons {c : Condition} {parts : List Condition} {ts : List Truth} :
    truths? given v (c :: parts) = some ts
      ↔ ∃ t us, c.truth? given v = some t ∧ truths? given v parts = some us ∧ ts = t :: us := by
  rw [truths?]
  cases c.truth? given v with
  | none => simp
  | some t => cases truths? given v parts <;> simp [eq_comm]

mutual

/-- An expression that a condition says is true where the condition is. -/
theorem truth?_expr : ∀ {c : Condition} {e : Expr}, c.expr? = some e →
    c.truth? given v = some (e.eval v)
  | .test t, _, he => by
      cases he
      rfl
  | .not c, _, he => by
      obtain ⟨f, hf, rfl⟩ := expr?_not.mp he
      rw [truth?, truth?_expr hf]
      rfl
  | .joined k parts, _, he => by
      obtain ⟨first, rest, hparts, rfl⟩ := expr?_joined.mp he
      rw [truth?, truths?_exprs hparts, k.eval_foldl]
      rfl

theorem truths?_exprs : ∀ {parts : List Condition} {es : List Expr}, exprs? parts = some es →
    truths? given v parts = some (es.map (Expr.eval v))
  | [], _, hes => by
      cases hes
      rfl
  | c :: rest, _, hes => by
      obtain ⟨e, fs, hc, hrest, rfl⟩ := exprs?_cons.mp hes
      exact truths?_cons.mpr ⟨_, _, truth?_expr hc, truths?_exprs hrest, rfl⟩

end

/-! ## Conjunctions -/

theorem truths?_append {xs ys : List Condition} {ts : List Truth}
    (h : truths? given v (xs ++ ys) = some ts) :
    ∃ as bs, truths? given v xs = some as ∧ truths? given v ys = some bs ∧ ts = as ++ bs := by
  induction xs generalizing ts with
  | nil => exact ⟨[], ts, rfl, h, rfl⟩
  | cons c xs ih =>
      obtain ⟨t, us, hc, hrest, rfl⟩ := truths?_cons.mp h
      obtain ⟨as, bs, has, hbs, rfl⟩ := ih hrest
      exact ⟨t :: as, bs, truths?_cons.mpr ⟨t, as, hc, has, rfl⟩, hbs, rfl⟩

/-- Parts combined have the value that they have together. -/
theorem combine_truth (k : Connective) (parts : List Condition) :
    (combine k parts).bind (truth? given v) = (truths? given v parts).bind k.fold := by
  match parts with
  | [] => rfl
  | [c] =>
      show c.truth? given v = (truths? given v [c]).bind k.fold
      cases hc : c.truth? given v with
      | none => simp [truths?, hc]
      | some t => simp [truths?, hc, Connective.fold]
  | c :: d :: rest => rfl

/-- There is a condition if there is a part. -/
theorem combine_some {k : Connective} {parts : List Condition} (h : parts ≠ []) :
    ∃ c, combine k parts = some c := by
  match parts with
  | [] => exact absurd rfl h
  | [c] => exact ⟨c, rfl⟩
  | c :: d :: rest => exact ⟨.joined k (c :: d :: rest), rfl⟩

/-- Where a conjunction holds, its first parts hold. -/
theorem combine_all_yes {parts more : List Condition}
    (h : (combine .all (parts ++ more)).bind (truth? given v) = some .yes) (hparts : parts ≠ []) :
    (combine .all parts).bind (truth? given v) = some .yes := by
  rw [combine_truth] at h ⊢
  obtain ⟨ts, hts, hfold⟩ := Option.bind_eq_some_iff.mp h
  obtain ⟨as, bs, has, -, rfl⟩ := truths?_append hts
  rw [has, Option.bind_some]
  rw [Connective.fold_append] at hfold
  cases as with
  | nil =>
      -- there is a part, so it has a value
      obtain ⟨c, rest, rfl⟩ := List.exists_cons_of_ne_nil hparts
      obtain ⟨_, _, -, -, hcons⟩ := truths?_cons.mp has
      cases hcons
  | cons a as =>
      cases hbs : Connective.all.fold bs with
      | none => rwa [hbs, Option.merge_none_right] at hfold
      | some b =>
          rw [hbs] at hfold
          have hyes := (Truth.and_eq_yes.mp (Option.some.inj hfold)).1
          rw [Connective.fold, hyes]

/-- A conjunction holds where its first member does and the others do, if
there are any. -/
theorem combine_all_cons_yes {c : Condition} {parts : List Condition} :
    (combine .all (c :: parts)).bind (truth? given v) = some .yes
      ↔ c.truth? given v = some .yes
        ∧ (parts = [] ∨ (combine .all parts).bind (truth? given v) = some .yes) := by
  cases parts with
  | nil => simp [combine]
  | cons d rest =>
      rw [combine_truth, combine_truth, Option.bind_eq_some_iff, Option.bind_eq_some_iff]
      constructor
      · rintro ⟨ts, hts, hfold⟩
        obtain ⟨t, us, hc, hus, rfl⟩ := truths?_cons.mp hts
        obtain ⟨u, rest', -, -, rfl⟩ := truths?_cons.mp hus
        rw [← List.singleton_append, Connective.fold_append] at hfold
        obtain ⟨rfl, hyes⟩ := Truth.and_eq_yes.mp (Option.some.inj hfold)
        exact ⟨hc, .inr ⟨_, hus, congrArg some hyes⟩⟩
      · rintro ⟨hc, hnone | ⟨us, hus, hfold⟩⟩
        · cases hnone
        · refine ⟨_, truths?_cons.mpr ⟨_, us, hc, hus, rfl⟩, ?_⟩
          rw [← List.singleton_append, Connective.fold_append, hfold]
          rfl

end Criteria.Sql.Condition
