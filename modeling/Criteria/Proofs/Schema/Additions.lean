import Criteria.Proofs.Schema.Fragments
import Criteria.Proofs.Schema.Types

/-!
# Schemas that keep their answers

Lookups climb a lineage and take the nearest answer, so a declaration on
one type can take the place of what its heirs have found farther up. It
does not where the type itself has found nothing: an answer that is
farther up than the type would have been the type's answer as well
(`Schema.Ordered.findSome?_modify`). Registrations and named filters get
in the way of nothing.

The main statement is `Schema.Enlarged.keeps`: whatever is found in a
schema is found in all schemas that calls of this kind lead to.
-/

namespace Criteria

/-- One more association of its own. -/
def Model.associate (a : Association) (m : Model) : Model :=
  { m with associations := a :: m.associations }

theorem Model.association?_associate {a : Association} {name : String} (h : a.name ≠ name)
    (m : Model) : (m.associate a).association? name = m.association? name := by
  simp [associate, association?, h]

namespace Schema

/-! ## What is found in both -/

/-- What the planner finds for a type of the first schema it finds for the
other type in the second schema. -/
structure Included (s : Schema) (id : ModelId) (t : Schema) (other : ModelId) : Prop where
  table : ∀ table, s.table id = .ok table → t.table other = .ok table
  endpoint : ∀ e, s.endpoint id = .ok e → t.endpoint other = .ok e
  hasColumn : ∀ column known, s.hasColumn id column = .ok known →
    t.hasColumn other column = .ok known
  association : ∀ name a, s.association id name = .ok a → t.association other name = .ok a

/-- Whatever is found for a type goes on being found for it. -/
def Keeps (s t : Schema) : Prop := ∀ id, s.Included id t id

variable {s t u : Schema} {id other : ModelId}

theorem Keeps.refl (s : Schema) : s.Keeps s := fun _ => ⟨fun _ h => h, fun _ h => h,
  fun _ _ h => h, fun _ _ h => h⟩

theorem Keeps.trans (h : s.Keeps t) (h' : t.Keeps u) : s.Keeps u := fun id =>
  { table := fun table hs => (h' id).table table ((h id).table table hs)
    endpoint := fun e hs => (h' id).endpoint e ((h id).endpoint e hs)
    hasColumn := fun column known hs => (h' id).hasColumn column known
      ((h id).hasColumn column known hs)
    association := fun name a hs => (h' id).association name a ((h id).association name a hs) }

/-- Nothing is found for a number that was not issued. -/
theorem Included.of_issued (h : id.index < s.models.size → s.Included id t other) :
    s.Included id t other := by
  rcases Nat.lt_or_ge id.index s.models.size with hid | hid
  · exact h hid
  · have hlineage : s.lineage id = { types := [], unissued := some id } := by
      rw [lineage, Lineage.climb, Array.getElem?_eq_none hid]
    have hsearch {β : Type} (f : Model → Option β) (found : Option β) :
        (s.lineage id).findSome? f ≠ .ok found := by
      intro heq
      rw [hlineage] at heq
      cases heq
    have htable (table : String) : s.table id ≠ .ok table := by
      intro hs
      obtain ⟨_, hfound, -⟩ := except_bind_ok.mp hs
      exact hsearch _ _ hfound
    refine ⟨fun table hs => absurd hs (htable table), fun e hs => ?_, fun column known hs => ?_,
      fun name a hs => ?_⟩
    · exact absurd (endpoint_ok hs).1 (htable _)
    · obtain ⟨_, hfound, -⟩ := except_bind_ok.mp hs
      exact absurd hfound (hsearch _ _)
    · obtain ⟨_, hfound, -⟩ := except_bind_ok.mp hs
      exact absurd hfound (hsearch _ _)

/-- What is settled is found in all later schemas, so associations are
what is left to look at. -/
theorem Extends.included (h : s.Extends t) (hs : s.Ordered) (ht : t.Ordered)
    (hassociation : id.index < s.models.size →
      ∀ name a, s.association id name = .ok a → t.association id name = .ok a) :
    s.Included id t id := by
  refine .of_issued fun hid => ?_
  have hsettles := h.settles hs ht hid
  have hendpoint : t.endpoint id = s.endpoint id := by
    rw [Schema.endpoint, hsettles.table, hsettles.baseName, ← Schema.endpoint]
  exact ⟨fun table hfound => hsettles.table.trans hfound,
    fun e hfound => hendpoint.trans hfound,
    fun column known hfound => (hsettles.hasColumn column).trans hfound, hassociation hid⟩

/-! ## Associations -/

/-- The association of a type is that of the nearest type that has one of
the name. -/
theorem association_eq_ok {name : String} {a : Association} : s.association id name = .ok a ↔
    ((s.lineage id).types.findSome? fun t => t.2.association? name) = some a := by
  constructor
  · intro h
    obtain ⟨found, hfound, h⟩ := except_bind_ok.mp h
    cases found with
    | none =>
        obtain ⟨_, -, h⟩ := except_bind_ok.mp h
        cases h
    | some b =>
        cases h
        exact Lineage.findSome?_ok hfound
  · intro h
    have hfound : (s.lineage id).findSome? (·.association? name) = .ok (some a) := by
      rw [Lineage.findSome?, h]
    rw [Schema.association, hfound]
    rfl

/-- A change of what a type has under other names makes no difference. -/
theorem association_modify {owner : ModelId} {change : Model → Model}
    (hparent : ∀ m, (change m).parent = m.parent) {name : String}
    (hsame : ∀ m, (change m).association? name = m.association? name) {a : Association} :
    (s.modify owner change).association id name = .ok a ↔ s.association id name = .ok a := by
  have hanswer : (fun t : ModelId × Model => t.2.association? name) ∘
      (fun t : ModelId × Model => (t.1, if t.1 = owner then change t.2 else t.2))
        = fun t => t.2.association? name := by
    funext t
    by_cases howner : t.1 = owner
    · simp only [Function.comp_apply, if_pos howner, hsame]
    · simp only [Function.comp_apply, if_neg howner]
  rw [association_eq_ok, association_eq_ok, lineage_modify hparent, List.findSome?_map, hanswer]

namespace Ordered

variable (hs : s.Ordered)
include hs

/-- A registration leaves the lineages of earlier types alone. -/
theorem lineage_register {m : Model} (ht : (s.register m).1.Ordered)
    (hid : id.index < s.models.size) :
    ((s.register m).1.lineage id).types = (s.lineage id).types := by
  -- Parents come earlier, so the induction is on a bound of the number.
  obtain ⟨n, hn⟩ : ∃ n, id.index < n := ⟨_, hid⟩
  induction n generalizing id with
  | zero => omega
  | succ n ih =>
      have hm := Array.getElem?_eq_getElem hid
      have hm' : (s.register m).1.models[id.index]? = some s.models[id.index] := by
        rw [Schema.register, Array.getElem?_push, if_neg (Nat.ne_of_lt hid), hm]
      rw [ht.lineage_eq hm', hs.lineage_eq hm]
      cases hp : s.models[id.index].parent with
      | none => rfl
      | some p =>
          have hlt := hs.parent hm p hp
          have habove : ((s.register m).1.lineage p).types = (s.lineage p).types :=
            ih (by omega) (by omega)
          simp only [habove]

/-- One more association takes nothing away if its owner has found none of
the name. -/
theorem association_add {owner : ModelId} {b : Association}
    (hnothing : ((s.lineage owner).types.findSome? fun t => t.2.association? b.name) = none)
    {name : String} {a : Association} (h : s.association id name = .ok a) :
    (s.modify owner (.associate b)).association id name = .ok a := by
  have hparent (m : Model) : (m.associate b).parent = m.parent := rfl
  by_cases hname : name = b.name
  · subst hname
    rw [association_eq_ok] at h ⊢
    exact hs.findSome?_modify (f := (·.association? b.name)) hparent hnothing h
  · exact (association_modify hparent fun m => m.association?_associate (Ne.symm hname)).mpr h

end Ordered

end Schema

/-! ## Calls that keep what is found -/

namespace SchemaCall

/-- A new association has a name under which its owner finds none. -/
def Quiet (s : Schema) : SchemaCall → Prop
  | .association owner a => ∀ b, s.association owner a.name ≠ .ok b
  | _ => True

variable {s : Schema} {call : SchemaCall}

theorem association_kept (hs : s.Ordered) (hissued : call.Issued s) (hquiet : call.Quiet s)
    {id : ModelId} (hid : id.index < s.models.size) {name : String} {a : Association}
    (h : s.association id name = .ok a) : (call.after s).association id name = .ok a := by
  have hregister {m : Model} (hm : (s.register m).1.Ordered) :
      (s.register m).1.association id name = .ok a := by
    rw [Schema.association_eq_ok, hs.lineage_register hm hid]
    exact Schema.association_eq_ok.mp h
  have hordered := hs.after call hissued
  unfold after at hordered ⊢
  split
  · rename_i t hrun
    simp only [hrun] at hordered
    cases call with
    | register m =>
        cases hrun
        exact hregister hordered
    | tryRegister m =>
        simp only [run, Schema.tryRegister] at hrun
        split at hrun
        · cases hrun
        · cases hrun
          exact hregister hordered
    | subtype parent name' =>
        cases hrun
        exact hregister hordered
    | subtypeWithTable parent m =>
        cases hrun
        exact hregister hordered
    | association owner b =>
        obtain ⟨_, -, hrun⟩ := except_bind_ok.mp hrun
        cases hrun
        -- The owner has found nothing, so there is no nearer answer to hide.
        refine hs.association_add ?_ h
        rw [Option.eq_none_iff_forall_ne_some]
        exact fun c hc => hquiet c (Schema.association_eq_ok.mpr hc)
    | fragment owner f =>
        obtain ⟨-, rfl⟩ := Schema.defineFragment_ok hrun
        have hparent (m : Model) : (m.define f).parent = m.parent := rfl
        exact (Schema.association_modify hparent fun _ => rfl).mpr h
  · exact h

/-- A call keeps what is found. -/
theorem keeps (hs : s.Ordered) (hissued : call.Issued s) (hdescribed : call.Described)
    (hquiet : call.Quiet s) : s.Keeps (call.after s) := fun _ =>
  (after_extends hdescribed s).included hs (hs.after call hissued) fun hid _ _ h =>
    association_kept hs hissued hquiet hid h

end SchemaCall

namespace Schema

/-- Calls lead from a schema and its log to others, and no association
comes under a name that its owner finds already. -/
inductive Enlarged (s : Schema) (log : Log) : Schema → Log → Prop
  | refl : Enlarged s log s log
  | call {t : Schema} {log' : Log} (call : SchemaCall) (h : Enlarged s log t log')
      (huses : ∀ id ∈ call.uses, id ∈ log'.map (·.2)) (hdescribed : call.Described)
      (hquiet : call.Quiet t) :
      Enlarged s log (call.after t) (log' ++ (call.registered t).toList)

theorem Enlarged.leads {s t : Schema} {log log' : Log} (h : s.Enlarged log t log') :
    Leads s log t log' := by
  induction h with
  | refl => exact .refl
  | call call _ huses hdescribed _ ih => exact .call call ih huses hdescribed

/-- What is found in a schema is found in all that it is enlarged to. -/
theorem Enlarged.keeps {s t : Schema} {log log' : Log} (h : s.Enlarged log t log')
    (hs : s.Recorded log) : s.Keeps t := by
  induction h with
  | refl => exact .refl s
  | @call t log' call h huses hdescribed hquiet ih =>
      have ht : t.Accounted log' := hs.accounted.leads h.leads
      exact ih.trans (call.keeps ht.grown.ordered (ht.issued hdescribed huses) hdescribed hquiet)

end Schema

end Criteria
