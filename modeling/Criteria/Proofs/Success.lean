import Criteria.Plan.Draft

/-!
# Success

A computation that may fail succeeds when each of its steps does. The
lemmas here take a success apart into those of its steps, once for plain
results and once for the planner, whose steps hand on a draft.
-/

namespace Criteria

theorem except_bind_ok {ε α β : Type} {x : Except ε α} {f : α → Except ε β} {b : β} :
    (x >>= f) = .ok b ↔ ∃ a, x = .ok a ∧ f a = .ok b := by
  cases x with
  | error e =>
      constructor
      · intro h
        cases h
      · rintro ⟨a, h, -⟩
        cases h
  | ok a =>
      constructor
      · exact fun h => ⟨a, rfl, h⟩
      · rintro ⟨_, h, hf⟩
        cases h
        exact hf

theorem except_bind_error {ε α β : Type} {x : Except ε α} {f : α → Except ε β} {e : ε} :
    (x >>= f) = .error e ↔ x = .error e ∨ ∃ a, x = .ok a ∧ f a = .error e := by
  cases x with
  | error e' =>
      constructor
      · intro h
        cases h
        exact .inl rfl
      · rintro (h | ⟨a, h, -⟩) <;> cases h
        rfl
  | ok a =>
      constructor
      · exact fun h => .inr ⟨a, rfl, h⟩
      · rintro (h | ⟨_, h, hf⟩)
        · cases h
        · cases h
          exact hf

theorem except_map_ok {ε α β : Type} {x : Except ε α} {f : α → β} {b : β} :
    x.map f = .ok b ↔ ∃ a, x = .ok a ∧ f a = b := by
  cases x with
  | error e => exact ⟨nofun, nofun⟩
  | ok a => simp [Except.map]

/-! ## Success of a planner -/

namespace Planner

variable {α β : Type} {d d' : Draft}

theorem bind_ok {x : Planner α} {f : α → Planner β} {b : β} :
    (x >>= f).run d = .ok (b, d') ↔
      ∃ a d₁, x.run d = .ok (a, d₁) ∧ (f a).run d₁ = .ok (b, d') := by
  rw [StateT.run_bind, except_bind_ok]
  exact ⟨fun ⟨⟨a, d₁⟩, h⟩ => ⟨a, d₁, h⟩, fun ⟨a, d₁, h⟩ => ⟨(a, d₁), h⟩⟩

theorem pure_ok {a b : α} :
    (pure a : Planner α).run d = .ok (b, d') ↔ b = a ∧ d' = d := by
  rw [StateT.run_pure]
  constructor
  · intro h
    cases h
    exact ⟨rfl, rfl⟩
  · rintro ⟨rfl, rfl⟩
    rfl

theorem get_ok {e : Draft} :
    (get : Planner Draft).run d = .ok (e, d') ↔ e = d ∧ d' = d := pure_ok (α := Draft)

theorem set_ok {e : Draft} {u : PUnit} :
    (set e : Planner PUnit).run d = .ok (u, d') ↔ d' = e := by
  constructor
  · intro h
    cases h
    rfl
  · rintro rfl
    rfl

theorem lift_ok {x : Except Failure α} {a : α} :
    (liftM x : Planner α).run d = .ok (a, d') ↔ x = .ok a ∧ d' = d := by
  cases x with
  | error e =>
      constructor
      · intro h
        cases h
      · rintro ⟨h, -⟩
        cases h
  | ok b =>
      constructor
      · intro h
        cases h
        exact ⟨rfl, rfl⟩
      · rintro ⟨h, rfl⟩
        cases h
        rfl

/-! ## Runs of a planner -/

theorem run_get_bind (f : Draft → Planner α) (d : Draft) :
    (get >>= f).run d = (f d).run d := rfl

theorem run_lift_bind (x : Except Failure α) (f : α → Planner β) (d : Draft) :
    ((liftM x : Planner α) >>= f).run d = x >>= fun a => (f a).run d := by
  cases x <;> rfl

end Planner

end Criteria
