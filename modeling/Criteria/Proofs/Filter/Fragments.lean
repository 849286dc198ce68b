import Criteria.Filter.Fragment

/-!
# Applying a named filter

The arguments of a named filter are checked before its body runs. Which
are refused is said by `Fragment.Refuses`, and with which complaint by
`Fragment.Mismatch`: their number, or else the first of them that has the
wrong shape. Refused arguments leave the scope alone, whatever the body
would do to it (`apply_refused`); if they are accepted, the outcome is that
of the body, run on the scope (`apply_accepted`). An error of the body is
passed on with the name of the filter, unless it bears one already
(`Error.tagged_inFragment`).
-/

namespace Criteria

/-! ## Errors that name their filter -/

/-- The second error is the first with a named filter in its context. -/
structure Error.Tagged (fragment : String) (e e' : Error) : Prop where
  code : e'.code = e.code
  message : e'.message = e.message
  source : e'.source = e.source
  /-- A name that was there stays, and so does the rest of the context. -/
  context : e'.context = { e.context with fragment := some (e.context.fragment.getD fragment) }

theorem Error.tagged_inFragment (e : Error) (fragment : String) :
    e.Tagged fragment (e.inFragment fragment) := by
  unfold inFragment
  obtain ⟨cause, ⟨operation, model, name, column, suggestions⟩, source⟩ := e
  cases name with
  | none => exact ⟨rfl, rfl, rfl, rfl⟩
  | some name => exact ⟨rfl, rfl, rfl, rfl⟩

namespace Fragment

variable {f : Fragment} {args : List Value} {problem : ArgumentProblem}

/-! ## Arguments -/

/-- The arguments are too few or too many, or one of them has a shape that
its parameter does not accept. -/
def Refuses (f : Fragment) (args : List Value) : Prop :=
  args.length ≠ f.params.length
    ∨ ∃ (i : Nat) (p : Param) (v : Value), f.params[i]? = some p ∧ args[i]? = some v
        ∧ p.kind.accepts v = false

/-- What is said of arguments that are refused. -/
inductive Mismatch (f : Fragment) (args : List Value) : ArgumentProblem → Prop
  | count (hlength : args.length ≠ f.params.length) :
      Mismatch f args (.count f.params.length args.length)
  | shape {i : Nat} {p : Param} {v : Value} (hlength : args.length = f.params.length)
      (hp : f.params[i]? = some p) (hv : args[i]? = some v) (hshape : p.kind.accepts v = false)
      (hfirst : ∀ j < i, ∀ q w, f.params[j]? = some q → args[j]? = some w →
        q.kind.accepts w = true) :
      Mismatch f args (.shape p.name p.kind.name v.kind)

theorem misshapen?_eq_some {params : List Param} {p : Param} {v : Value} :
    misshapen? params args = some (p, v) ↔ p.kind.accepts v = false
      ∧ ∃ i : Nat, params[i]? = some p ∧ args[i]? = some v
        ∧ ∀ j < i, ∀ q w, params[j]? = some q → args[j]? = some w → q.kind.accepts w = true := by
  have hzip : ∀ (i : Nat) (x : Param × Value), (params.zip args)[i]? = some x
      ↔ params[i]? = some x.1 ∧ args[i]? = some x.2 := fun i x => List.getElem?_zip_eq_some
  rw [misshapen?, List.find?_eq_some_iff_getElem]
  simp only [Bool.not_eq_true', Bool.not_not]
  refine and_congr_right fun _ => ⟨?_, ?_⟩
  · rintro ⟨i, hi, hx, hfirst⟩
    obtain ⟨hp, hv⟩ := (hzip i (p, v)).mp (List.getElem?_eq_some_iff.mpr ⟨hi, hx⟩)
    refine ⟨i, hp, hv, fun j hj q w hq hw => ?_⟩
    obtain ⟨hlt, hget⟩ := List.getElem?_eq_some_iff.mp ((hzip j (q, w)).mpr ⟨hq, hw⟩)
    have haccepts := hfirst j hj
    rw [hget] at haccepts
    exact haccepts
  · rintro ⟨i, hp, hv, hfirst⟩
    obtain ⟨hi, hx⟩ := List.getElem?_eq_some_iff.mp ((hzip i (p, v)).mpr ⟨hp, hv⟩)
    refine ⟨i, hi, hx, fun j hj => ?_⟩
    have hget := List.getElem?_eq_getElem (l := params.zip args) (Nat.lt_trans hj hi)
    obtain ⟨hq, hw⟩ := (hzip j _).mp hget
    exact hfirst j hj _ _ hq hw

theorem problem?_eq_some : f.problem? args = some problem ↔ f.Mismatch args problem := by
  unfold problem?
  split
  · rename_i hlength
    constructor
    · rintro ⟨⟩
      exact .count hlength
    · rintro (_ | hsame)
      · rfl
      · exact absurd hsame hlength
  · rename_i hlength
    have hsame : args.length = f.params.length := Decidable.of_not_not hlength
    rw [Option.map_eq_some_iff]
    constructor
    · rintro ⟨⟨p, v⟩, hfound, rfl⟩
      obtain ⟨hshape, i, hp, hv, hfirst⟩ := misshapen?_eq_some.mp hfound
      exact .shape hsame hp hv hshape hfirst
    · rintro (hother | ⟨-, hp, hv, hshape, hfirst⟩)
      · exact absurd hsame hother
      · exact ⟨_, misshapen?_eq_some.mpr ⟨hshape, _, hp, hv, hfirst⟩, rfl⟩

/-- Arguments are refused with one complaint, and there is none about
others. -/
theorem refuses_iff : f.Refuses args ↔ ∃ problem, f.problem? args = some problem := by
  constructor
  · intro h
    rw [← Option.isSome_iff_exists]
    unfold problem?
    split
    · rfl
    · rename_i hlength
      obtain ⟨i, p, v, hp, hv, hshape⟩ := h.resolve_left hlength
      have hmem : (p, v) ∈ f.params.zip args :=
        List.mem_of_getElem? (List.getElem?_zip_eq_some.mpr ⟨hp, hv⟩)
      rw [Option.isSome_map, misshapen?, List.find?_isSome]
      exact ⟨(p, v), hmem, by simp [hshape]⟩
  · rintro ⟨problem, h⟩
    cases problem?_eq_some.mp h with
    | count hlength => exact .inl hlength
    | shape _ hp hv hshape _ => exact .inr ⟨_, _, _, hp, hv, hshape⟩

/-! ## Application -/

/-- Where arguments are refused, nothing depends on the body. -/
theorem apply_refused (h : f.Mismatch args problem) (body : List Value → Body) (s : Scope) :
    ({ f with body } : Fragment).apply args s
      = (s, .error (.of (.argumentMismatch f.name problem))) := by
  have hproblem : ({ f with body } : Fragment).problem? args = f.problem? args := rfl
  rw [apply, checkArgs, hproblem, problem?_eq_some.mpr h]

theorem apply_accepted (h : ¬f.Refuses args) (s : Scope) : f.apply args s =
    match f.body args s with
    | (after, .ok ()) => (after, .ok ())
    | (after, .error failure) => (after, .error (failure.map (·.inFragment f.name))) := by
  have hnone : f.problem? args = none := by
    rw [refuses_iff] at h
    exact Option.eq_none_iff_forall_ne_some.mpr fun problem hproblem => h ⟨problem, hproblem⟩
  have hchecked : f.checkArgs args = .ok () := by rw [checkArgs, hnone]
  unfold apply
  rcases f.body args s with ⟨after, failure | _⟩ <;> rw [hchecked]

end Fragment

end Criteria
