import Criteria.Proofs.Filter.Built
import Criteria.Proofs.Filter.Document

/-!
# Sound restrictions

When a restriction makes a test, and what is wrong with it when it does
not. The type of a restriction allows for an operator without an operand,
which no call brings about: an operator that compares is set together with
what it compares with (`Scope.Built.equipped`). So there are three faults
and not four.
-/

namespace Criteria

namespace Restriction

/-- An operator is set; `in` has a list, and `between` a list of two
values that are not null. -/
structure Sound (r : Restriction) : Prop where
  operator : ∃ op, r.operator = some op
  inList : r.operator = some .inList → ∃ items, r.operand = some (.list items)
  between : r.operator = some .between → ∃ start finish,
    r.operand = some (.list [start, finish]) ∧ start.isNull = false ∧ finish.isNull = false

/-- What is wrong with a restriction that is not sound. -/
inductive Fault (r : Restriction) : RestrictionProblem → Prop
  | noOperator (hop : r.operator = none) : Fault r .noOperator
  | notAList {v : Value} (hop : r.operator = some .inList) (hv : r.operand = some v)
      (hlist : v.isList = false) : Fault r (.notAList v.kind)
  | noBounds (hop : r.operator = some .between)
      (hbounds : ¬ ∃ start finish, r.operand = some (.list [start, finish])
        ∧ start.isNull = false ∧ finish.isNull = false) : Fault r .noBounds

/-- There is an operand unless the operator has no use for one. -/
def Equipped (r : Restriction) : Prop :=
  ∀ op, r.operator = some op → op ≠ .isNull → ∃ v, r.operand = some v

variable {r r' : Restriction} {bound : Nat}

theorem Fault.not_sound {problem : RestrictionProblem} (h : r.Fault problem) : ¬ r.Sound := by
  intro hsound
  cases h with
  | noOperator hop =>
      obtain ⟨op, hsome⟩ := hsound.operator
      rw [hop] at hsome
      cases hsome
  | notAList hop hv hlist =>
      obtain ⟨items, hitems⟩ := hsound.inList hop
      rw [hv, Option.some_inj] at hitems
      rw [hitems] at hlist
      cases hlist
  | noBounds hop hbounds => exact hbounds (hsound.between hop)

/-! ## Forms of sound restrictions -/

theorem bounds_ok_iff {start finish : Value} : r.bounds = .ok (start, finish)
    ↔ r.operand = some (.list [start, finish]) ∧ start.isNull = false ∧ finish.isNull = false := by
  unfold bounds
  split
  case h_1 first last hoperand =>
      rw [hoperand]
      by_cases hnull : first.isNull || last.isNull
      · simp only [hnull, if_true, Option.some_inj, Value.list.injEq]
        constructor
        · intro h
          cases h
        · rintro ⟨h, hstart, hfinish⟩
          cases h
          simp [hstart, hfinish] at hnull
      · simp only [hnull, Option.some_inj, Value.list.injEq]
        constructor
        · intro h
          cases h
          simpa using hnull
        · rintro ⟨h, -⟩
          cases h
          rfl
  case h_2 hno =>
      constructor
      · intro h
        cases h
      · rintro ⟨hoperand, -⟩
        exact absurd hoperand (hno start finish)

theorem bounds_error {problem : RestrictionProblem} (h : r.bounds = .error problem) :
    problem = .noBounds := by
  unfold bounds at h
  split at h
  · split at h <;> cases h
    rfl
  · cases h
    rfl

theorem form_sound {result : Sql.TestForm × List Value} (h : r.form bound = .ok result) :
    r.Sound := by
  unfold form at h
  split at h
  case h_1 => cases h
  case h_2 hop => exact ⟨⟨_, hop⟩, by simp [hop], by simp [hop]⟩
  case h_3 hop =>
      obtain ⟨⟨start, finish⟩, hbounds, -⟩ := except_bind_ok.mp h
      exact ⟨⟨_, hop⟩, by simp [hop], fun _ => ⟨start, finish, bounds_ok_iff.mp hbounds⟩⟩
  case h_4 hop =>
      obtain ⟨v, hv, h⟩ := except_bind_ok.mp h
      refine ⟨⟨_, hop⟩, fun _ => ?_, by simp [hop]⟩
      rw [needed_ok hv]
      cases v with
      | list items => exact ⟨items, rfl⟩
      | _ => cases h
  case h_5 hop => exact ⟨⟨_, hop⟩, by simp [hop], by simp [hop]⟩
  case h_6 c hop => exact ⟨⟨_, hop⟩, by simp [hop], by simp [hop]⟩

/-- The operand of an equipped restriction is there when it is needed. -/
theorem Equipped.needed (hr : r.Equipped) {op : Operator} (hop : r.operator = some op)
    (hnull : op ≠ .isNull) : ∃ v, r.operand = some v ∧ r.needed op = .ok v := by
  obtain ⟨v, hv⟩ := hr op hop hnull
  exact ⟨v, hv, by rw [Restriction.needed, hv]⟩

theorem form_fault {problem : RestrictionProblem} (hr : r.Equipped)
    (h : r.form bound = .error problem) : r.Fault problem := by
  unfold form at h
  split at h
  case h_1 hop =>
      cases h
      exact .noOperator hop
  case h_2 => cases h
  case h_3 hop =>
      rcases except_bind_error.mp h with hbounds | ⟨_, -, h⟩
      · obtain rfl := bounds_error hbounds
        refine .noBounds hop ?_
        rintro ⟨start, finish, hsound⟩
        rw [bounds_ok_iff.mpr hsound] at hbounds
        cases hbounds
      · cases h
  case h_4 hop =>
      obtain ⟨v, hv, hneeded⟩ := hr.needed hop (by simp)
      rw [hneeded] at h
      by_cases hlist : v.isList
      · simp only [bind, Except.bind, hlist, if_true] at h
        cases h
      · simp only [bind, Except.bind, hlist] at h
        cases h
        exact .notAList hop hv (by simpa using hlist)
  case h_5 hop =>
      obtain ⟨v, hv, hneeded⟩ := hr.needed hop (by simp)
      rw [hneeded] at h
      cases h
  case h_6 c hop =>
      obtain ⟨v, hv, hneeded⟩ := hr.needed hop (by simp)
      rw [hneeded] at h
      cases h

/-! ## Calls equip restrictions -/

theorem equipped_of_operand {v : Value} (h : r.operand = some v) : r.Equipped :=
  fun _ _ _ => ⟨v, h⟩

theorem Called.equipped (h : r.Called) : r.Equipped := by
  cases h with
  | bare column negated =>
      intro op hop
      cases hop
  | isNull _ =>
      intro op hop hnull
      cases hop
      exact absurd rfl hnull
  | compare c v _ => exact equipped_of_operand rfl
  | inList v _ => exact equipped_of_operand rfl
  | like v _ => exact equipped_of_operand rfl
  | between v _ => exact equipped_of_operand rfl

end Restriction

/-! ## What calls build is equipped -/

namespace Scope

variable {s t : Scope}

theorem mem_sites_add {node : Node} {path : List String} {site : Site}
    (h : site ∈ Node.allSites path (s.add node).group.children) :
    site ∈ Node.allSites path s.group.children ∨ site ∈ node.sites path := by
  have hsplit : Node.allSites path (s.add node).group.children
      = Node.allSites path s.group.children ++ (node.sites path ++ []) :=
    Node.allSites_append path s.group.children [node]
  rw [hsplit, List.append_nil] at h
  exact List.mem_append.mp h

/-- What holds of every restriction that calls can make holds all over the
tree that they build, whatever path leads to it. -/
theorem Reached.everySite {P : Site → Prop} (hr : ∀ path r, r.Called → P (.restriction path r))
    (hv : ∀ v, P (.visit v)) (h : s.Reached t)
    (hs : ∀ path, ∀ site ∈ Node.allSites path s.group.children, P site) :
    ∀ path, ∀ site ∈ Node.allSites path t.group.children, P site := by
  induction h with
  | refl => exact hs
  | restrict _ hcalled ih =>
      intro path site hsite
      rcases mem_sites_add hsite with hsite | hsite
      · exact ih hs path site hsite
      · obtain rfl := List.mem_singleton.mp hsite
        exact hr path _ hcalled
  | group _ _ ih ihBody =>
      intro path site hsite
      rcases mem_sites_add hsite with hsite | hsite
      · exact ih hs path site hsite
      · exact ihBody (fun _ _ hsite => nomatch hsite) path site hsite
  | having _ _ ih ihBody =>
      intro path site hsite
      rcases mem_sites_add hsite with hsite | hsite
      · exact ih hs path site hsite
      · rcases List.mem_cons.mp hsite with rfl | hsite
        · exact hv _
        · exact ihBody (fun _ _ hsite => nomatch hsite) _ site hsite
  | clause _ _ _ ih => exact ih hs

end Scope

def Site.Equipped : Site → Prop
  | .restriction _ r => r.Equipped
  | .visit _ => True

/-- All restrictions of the tree are equipped, whatever path leads to
it. -/
def Scope.Equipped (s : Scope) : Prop :=
  ∀ path, ∀ site ∈ Node.allSites path s.group.children, site.Equipped

theorem Scope.Reached.equipped {s t : Scope} (h : s.Reached t) (hs : s.Equipped) : t.Equipped :=
  h.everySite (fun _ _ hr => hr.equipped) (fun _ => trivial) hs

theorem Scope.Built.equipped {s : Scope} (h : s.Built) : s.Equipped :=
  h.reached.equipped fun _ _ hsite => nomatch hsite

/-- The sites that columns visit need nothing. -/
theorem Scope.Equipped.sites {s : Scope} (h : s.Equipped) :
    ∀ site ∈ s.sites, site.Equipped := by
  intro site hsite
  rcases List.mem_append.mp hsite with htree | hcolumn
  · exact h [] site htree
  · obtain ⟨v, -, rfl⟩ := List.mem_map.mp hcolumn
    trivial

end Criteria
