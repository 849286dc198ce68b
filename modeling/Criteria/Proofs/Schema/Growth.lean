import Criteria.Proofs.Schema.Lookup
import Criteria.Schema.Registration

/-!
# Schemas that calls grow

What all schemas have in common that registration and definitions bring
about. A type inherits from a type that was there before it, so numbers go
down along a lineage (`Schema.Grown.ordered`). Then the climb never runs
out of fuel, and a lineage is a type and the lineage of its parent
(`Schema.Ordered.lineage_eq`): from any of its types on, it is the lineage
of that type.
-/

namespace Criteria

/-! ## Calls -/

/-- A call that adds to a schema. -/
inductive SchemaCall where
  | register (m : Model)
  | tryRegister (m : Model)
  | subtype (parent : ModelId) (name : String)
  | subtypeWithTable (parent : ModelId) (m : Model)
  | association (owner : ModelId) (a : Association)
  | fragment (id : ModelId) (f : Fragment)

/-- The names of its own named filters, in the order of definition. -/
def Model.fragmentNames (m : Model) : List String := m.fragments.map (·.name)

namespace SchemaCall

def run (s : Schema) : SchemaCall → Except Failure Schema
  | .register m => .ok (s.register m).1
  | .tryRegister m => (s.tryRegister m).map (·.1)
  | .subtype parent name => .ok (s.registerSubtype parent name).1
  | .subtypeWithTable parent m => .ok (s.registerSubtypeWithTable parent m).1
  | .association owner a => s.addAssociation owner a
  | .fragment id f => s.defineFragment id f

/-- A call that fails leaves the schema as it was. -/
def after (s : Schema) (call : SchemaCall) : Schema :=
  match call.run s with
  | .ok t => t
  | .error _ => s

/-- All numbers in the call were issued by the schema, and a description
has each named filter once. -/
def Issued (s : Schema) : SchemaCall → Prop
  | .register m | .tryRegister m =>
    (∀ p, m.parent = some p → p.index < s.models.size) ∧ m.fragmentNames.Nodup
  | .subtype parent _ => parent.index < s.models.size
  | .subtypeWithTable parent m => parent.index < s.models.size ∧ m.fragmentNames.Nodup
  | .association owner _ => owner.index < s.models.size
  | .fragment id _ => id.index < s.models.size

end SchemaCall

namespace Schema

/-- A schema after any number of calls, some of which may have failed. -/
inductive Grown : Schema → Prop
  | empty : Grown {}
  | call {s : Schema} (call : SchemaCall) (h : s.Grown) (hissued : call.Issued s) :
      Grown (call.after s)

/-! ## Ordered schemas -/

/-- Types come after those that they inherit from, and no type has two
named filters of one name. -/
structure Ordered (s : Schema) : Prop where
  parent : ∀ ⦃i : Nat⦄ ⦃m : Model⦄, s.models[i]? = some m →
    ∀ p, m.parent = some p → p.index < i
  fragments : ∀ ⦃i : Nat⦄ ⦃m : Model⦄, s.models[i]? = some m → m.fragmentNames.Nodup

variable {s t : Schema} {id : ModelId} {m : Model}

theorem index_lt_size (hm : s.models[id.index]? = some m) : id.index < s.models.size :=
  (Array.getElem?_eq_some_iff.mp hm).1

theorem mem_lineage_self (hm : s.models[id.index]? = some m) : (id, m) ∈ (s.lineage id).types := by
  rw [lineage, Lineage.climb, hm]
  simp only
  split <;> exact List.mem_cons_self ..

/-- What a definition does when it succeeds. -/
theorem defineFragment_ok {f : Fragment} (h : s.defineFragment id f = .ok t) :
    (∀ x ∈ (s.lineage id).types, x.2.fragment? f.name = none)
      ∧ t = s.modify id fun m => { m with fragments := m.fragments ++ [f] } := by
  obtain ⟨found, hfound, h⟩ := except_bind_ok.mp h
  cases found with
  | some g =>
      obtain ⟨_, -, h⟩ := except_bind_ok.mp h
      cases h
  | none =>
      cases h
      exact ⟨List.findSome?_eq_none_iff.mp (Lineage.findSome?_ok hfound), rfl⟩

end Schema

theorem Model.fragment?_eq_none {m : Model} {name : String} :
    m.fragment? name = none ↔ name ∉ m.fragmentNames := by
  simp [Model.fragment?, Model.fragmentNames]

namespace Schema.Ordered

variable {s : Schema}

theorem register (hs : s.Ordered) {m : Model}
    (hparent : ∀ p, m.parent = some p → p.index < s.models.size)
    (hfragments : m.fragmentNames.Nodup) : (s.register m).1.Ordered := by
  have hcases {i : Nat} {m' : Model} (h : (s.register m).1.models[i]? = some m') :
      s.models[i]? = some m' ∨ i = s.models.size ∧ m' = m := by
    simp only [Schema.register, Array.getElem?_push] at h
    split at h
    · rename_i hi
      exact .inr ⟨hi, (Option.some_inj.mp h).symm⟩
    · exact .inl h
  constructor
  · intro i m' h p hp
    rcases hcases h with hold | ⟨rfl, rfl⟩
    · exact hs.parent hold p hp
    · exact hparent p hp
  · intro i m' h
    rcases hcases h with hold | ⟨rfl, rfl⟩
    · exact hs.fragments hold
    · exact hfragments

theorem modify (hs : s.Ordered) {id : ModelId} {change : Model → Model}
    (hparent : ∀ m, (change m).parent = m.parent)
    (hfragments : ∀ m, s.models[id.index]? = some m → (change m).fragmentNames.Nodup) :
    (s.modify id change).Ordered := by
  have hcases {i : Nat} {m' : Model} (h : (s.modify id change).models[i]? = some m') :
      ∃ m, s.models[i]? = some m ∧ (m' = m ∨ id.index = i ∧ m' = change m) := by
    simp only [Schema.modify, Array.getElem?_modify] at h
    split at h
    · rename_i hi
      obtain ⟨m, hm, rfl⟩ := Option.map_eq_some_iff.mp h
      exact ⟨m, hm, .inr ⟨hi, rfl⟩⟩
    · exact ⟨m', h, .inl rfl⟩
  constructor
  · intro i m' h p hp
    obtain ⟨m, hm, rfl | ⟨-, rfl⟩⟩ := hcases h
    · exact hs.parent hm p hp
    · exact hs.parent hm p (hparent m ▸ hp)
  · intro i m' h
    obtain ⟨m, hm, rfl | ⟨rfl, rfl⟩⟩ := hcases h
    · exact hs.fragments hm
    · exact hfragments m hm

theorem defineFragment {t : Schema} (hs : s.Ordered) {id : ModelId} {f : Fragment}
    (h : s.defineFragment id f = .ok t) : t.Ordered := by
  obtain ⟨hnone, rfl⟩ := defineFragment_ok h
  refine hs.modify (fun _ => rfl) fun m hm => ?_
  have hnew := Model.fragment?_eq_none.mp (hnone _ (mem_lineage_self hm))
  have hnames : Model.fragmentNames { m with fragments := m.fragments ++ [f] }
      = m.fragmentNames ++ [f.name] := List.map_append
  rw [hnames, List.nodup_append]
  refine ⟨hs.fragments hm, by simp, fun a ha b hb => ?_⟩
  obtain rfl := List.mem_singleton.mp hb
  exact fun heq => hnew (heq ▸ ha)

theorem after (hs : s.Ordered) (call : SchemaCall) (hissued : call.Issued s) :
    (call.after s).Ordered := by
  have hrun {t : Schema} (h : call.run s = .ok t) : t.Ordered := by
    cases call with
    | register m =>
        cases h
        exact hs.register hissued.1 hissued.2
    | tryRegister m =>
        simp only [SchemaCall.run, Schema.tryRegister] at h
        split at h
        · cases h
        · cases h
          exact hs.register hissued.1 hissued.2
    | subtype parent name =>
        cases h
        refine hs.register (fun p hp => ?_) List.nodup_nil
        cases hp
        exact hissued
    | subtypeWithTable parent m =>
        cases h
        refine hs.register (fun p hp => ?_) hissued.2
        cases hp
        exact hissued.1
    | association owner a =>
        obtain ⟨_, -, h⟩ := except_bind_ok.mp h
        cases h
        refine hs.modify (fun _ => rfl) fun m hm => ?_
        have hkept : m.fragmentNames.Nodup := hs.fragments hm
        exact hkept
    | fragment id f => exact hs.defineFragment h
  unfold SchemaCall.after
  split
  · rename_i h
    exact hrun h
  · exact hs

end Schema.Ordered

theorem Schema.Grown.ordered {s : Schema} (h : s.Grown) : s.Ordered := by
  induction h with
  | empty => exact ⟨nofun, nofun⟩
  | call call _ hissued ih => exact ih.after call hissued

/-! ## Lineages -/

/-- Where parents come first, there is fuel enough. -/
theorem Lineage.climb_fuel {models : Array Model}
    (hparent : ∀ ⦃i : Nat⦄ ⦃m : Model⦄, models[i]? = some m →
      ∀ p, m.parent = some p → p.index < i)
    {fuel fuel' : Nat} {id : ModelId} (h : id.index < fuel) (h' : id.index < fuel') :
    climb models fuel id = climb models fuel' id := by
  induction fuel generalizing fuel' id with
  | zero => omega
  | succ fuel ih =>
      cases fuel' with
      | zero => omega
      | succ fuel' =>
          rw [climb, climb]
          cases hm : models[id.index]? with
          | none => rfl
          | some m =>
              cases hp : m.parent with
              | none => simp only [hp]
              | some p =>
                  have hlt := hparent hm p hp
                  have hrest : climb models fuel p = climb models fuel' p :=
                    ih (by omega) (by omega)
                  simp only [hp, hrest]

namespace Schema

variable {s : Schema} {id : ModelId}

namespace Ordered

variable (hs : s.Ordered)
include hs

theorem registered (hid : id.index < s.models.size) : s.Registered id := by
  refine (registered_iff_lt fun m hm p hp => ?_).mpr hid
  obtain ⟨i, hi, rfl⟩ := Array.mem_iff_getElem.mp hm
  exact Nat.lt_trans (hs.parent (Array.getElem?_eq_getElem hi) p hp) hi

/-- The lineage of a type goes on with that of its parent. -/
theorem lineage_eq {m : Model} (hm : s.models[id.index]? = some m) :
    (s.lineage id).types = (id, m) :: match m.parent with
      | none => []
      | some p => (s.lineage p).types := by
  rw [lineage, Lineage.climb, hm]
  cases hp : m.parent with
  | none => simp only [hp]
  | some p =>
      have hlt := hs.parent hm p hp
      have hid := index_lt_size hm
      have hfuel : Lineage.climb s.models s.models.size p = s.lineage p :=
        Lineage.climb_fuel hs.parent (by omega) (by omega)
      simp only [hp, hfuel]

/-- From any type on, a lineage is the lineage of that type. -/
theorem lineage_split {nearer farther : List (ModelId × Model)} {t : ModelId × Model}
    (h : (s.lineage id).types = nearer ++ t :: farther) :
    (s.lineage t.1).types = t :: farther := by
  induction nearer generalizing id with
  | nil =>
      have hmem : t ∈ (s.lineage id).types := by
        rw [h]
        exact List.mem_cons_self ..
      cases hm : s.models[id.index]? with
      | none =>
          rw [lineage, Lineage.climb, hm] at h
          cases h
      | some m =>
          have heq := hs.lineage_eq hm
          rw [h, List.nil_append, List.cons.injEq] at heq
          rw [heq.1]
          exact h.trans (by rw [List.nil_append, heq.1])
  | cons u nearer ih =>
      cases hm : s.models[id.index]? with
      | none =>
          rw [lineage, Lineage.climb, hm] at h
          cases h
      | some m =>
          have heq := hs.lineage_eq hm
          rw [h, List.cons_append, List.cons.injEq] at heq
          cases hp : m.parent with
          | none =>
              rw [hp] at heq
              exact absurd heq.2 (by simp)
          | some p =>
              rw [hp] at heq
              exact ih heq.2.symm

end Ordered

theorem getElem?_modify {change : Model → Model} (other : ModelId) :
    (s.modify id change).models[other.index]?
      = s.models[other.index]?.map fun m => if other = id then change m else m := by
  rw [modify, Array.getElem?_modify]
  by_cases hid : other = id
  · rw [hid, if_pos rfl]
    simp
  · have hindex : id.index ≠ other.index := fun heq => hid (congrArg ModelId.mk heq.symm)
    rw [if_neg hindex]
    simp [hid]

/-- A change that leaves parents alone leaves lineages alone. -/
theorem lineage_modify {change : Model → Model} (hparent : ∀ m, (change m).parent = m.parent)
    (other : ModelId) : (s.modify id change).lineage other
      = { s.lineage other with
          types := (s.lineage other).types.map fun t =>
            (t.1, if t.1 = id then change t.2 else t.2) } := by
  have hclimb (fuel : Nat) : Lineage.climb (s.modify id change).models fuel other
      = { Lineage.climb s.models fuel other with
          types := (Lineage.climb s.models fuel other).types.map fun t =>
            (t.1, if t.1 = id then change t.2 else t.2) } := by
    induction fuel generalizing other with
    | zero => rfl
    | succ fuel ih =>
        rw [Lineage.climb, Lineage.climb, getElem?_modify]
        cases s.models[other.index]? with
        | none => rfl
        | some m =>
            have hsame : (if other = id then change m else m).parent = m.parent := by
              split
              · exact hparent m
              · rfl
            simp only [Option.map_some, hsame]
            cases m.parent with
            | none => rfl
            | some p => simp only [ih p, List.map_cons]
  have hsize : (s.modify id change).models.size = s.models.size := Array.size_modify ..
  rw [lineage, hsize, hclimb, ← lineage]

/-- A change to a type that has found nothing takes nothing from the types
below it: what they find is nearer to them than that type. -/
theorem Ordered.findSome?_modify {β : Type} (hs : s.Ordered) {f : Model → Option β}
    {change : Model → Model} (hparent : ∀ m, (change m).parent = m.parent)
    (hnothing : ((s.lineage id).types.findSome? fun t => f t.2) = none) {other : ModelId} {b : β}
    (h : ((s.lineage other).types.findSome? fun t => f t.2) = some b) :
    (((s.modify id change).lineage other).types.findSome? fun t => f t.2) = some b := by
  obtain ⟨nearer, x, farther, hsplit, hx, hnearer⟩ := List.findSome?_eq_some_iff.mp h
  -- Who is met no later than the answer has the answer in its own lineage.
  have hapart : ∀ {before y after}, (s.lineage other).types = before ++ y :: after →
      x ∈ y :: after → y.1 ≠ id := by
    rintro before y after hat hmem rfl
    rw [hs.lineage_split hat, List.findSome?_eq_none_iff] at hnothing
    have hnone := hnothing x hmem
    rw [hx] at hnone
    cases hnone
  rw [lineage_modify hparent, List.findSome?_map, List.findSome?_eq_some_iff]
  refine ⟨nearer, x, farther, hsplit, ?_, fun y hy => ?_⟩
  · rw [Function.comp_apply, if_neg (hapart hsplit (List.mem_cons_self ..)), hx]
  · obtain ⟨before, after, rfl⟩ := List.append_of_mem hy
    have hat : (s.lineage other).types = before ++ y :: (after ++ x :: farther) := by
      rw [hsplit, List.append_assoc, List.cons_append]
    rw [Function.comp_apply, if_neg (hapart hat (by simp)), hnearer y hy]

end Schema

end Criteria
