import Criteria.Proofs.Success
import Criteria.Schema

/-!
# Lookups in a schema

What is found was declared by some type of a lineage; where all types of a
lineage were issued, a lookup has an answer; and where they were not, the
failure is a broken promise. The planner and the registry both rest on
these, and neither climbs a lineage itself.
-/

namespace Criteria

/-! ## What is found -/

theorem Lineage.findSome?_ok {l : Lineage} {β : Type} {f : Model → Option β} {found : Option β}
    (h : l.findSome? f = .ok found) : l.types.findSome? (fun t => f t.2) = found := by
  unfold findSome? at h
  split at h
  · rename_i hsome
    cases h
    exact hsome
  · rename_i hnone _
    cases h
    exact hnone
  · cases h

namespace Schema

variable {s : Schema} {id : ModelId}

theorem association_ok {name : String} {a : Association} (h : s.association id name = .ok a) :
    ∃ t ∈ (s.lineage id).types, t.2.association? name = some a := by
  obtain ⟨found, hfound, h⟩ := except_bind_ok.mp h
  cases found with
  | none =>
      obtain ⟨_, -, h⟩ := except_bind_ok.mp h
      cases h
  | some b =>
      cases h
      exact List.exists_of_findSome?_eq_some (Lineage.findSome?_ok hfound)

theorem association_name {name : String} {a : Association}
    (h : s.association id name = .ok a) : a.name = name := by
  obtain ⟨t, -, ht⟩ := association_ok h
  simpa using List.find?_some ht

theorem climb_getElem? {models : Array Model} {fuel : Nat} {id : ModelId} {t : ModelId × Model}
    (h : t ∈ (Lineage.climb models fuel id).types) : models[t.1.index]? = some t.2 := by
  induction fuel generalizing id with
  | zero => cases h
  | succ fuel ih =>
      unfold Lineage.climb at h
      split at h
      · cases h
      · rename_i m hm
        split at h
        · obtain rfl := List.mem_singleton.mp h
          exact hm
        · rcases List.mem_cons.mp h with rfl | h
          · exact hm
          · exact ih h

theorem climb_mem {models : Array Model} {fuel : Nat} {id : ModelId} {t : ModelId × Model}
    (h : t ∈ (Lineage.climb models fuel id).types) : t.2 ∈ models :=
  Array.mem_of_getElem? (climb_getElem? h)

/-- An association that is found was declared by some type. -/
theorem association_mem {name : String} {a : Association} (h : s.association id name = .ok a) :
    ∃ m ∈ s.models, a ∈ m.associations := by
  obtain ⟨t, hmem, ht⟩ := association_ok h
  exact ⟨t.2, climb_mem hmem, List.mem_of_find?_eq_some ht⟩

/-- A type goes by the name of its table until it is told otherwise. -/
theorem endpoint_ok {e : Endpoint} (h : s.endpoint id = .ok e) :
    s.table id = .ok e.table ∧ e.label = e.table := by
  obtain ⟨table, ht, h⟩ := except_bind_ok.mp h
  obtain ⟨base, -, h⟩ := except_bind_ok.mp h
  cases h
  exact ⟨ht, rfl⟩

/-! ## Registered types -/

/-- The type and all types that it inherits from were issued. -/
def Registered (s : Schema) (id : ModelId) : Prop := (s.lineage id).unissued = none

/-- All associations lead to registered types. -/
def Linked (s : Schema) : Prop := ∀ m ∈ s.models, ∀ a ∈ m.associations, s.Registered a.target

/-- A type, or one that it inherits from, has an association of this
name. -/
def Declares (s : Schema) (id : ModelId) (name : String) : Prop :=
  ∃ t ∈ (s.lineage id).types, ∃ a ∈ t.2.associations, a.name = name

theorem climb_registered {models : Array Model}
    (hparents : ∀ m ∈ models, ∀ p, m.parent = some p → p.index < models.size) (fuel : Nat)
    {id : ModelId} (hid : id.index < models.size) :
    (Lineage.climb models fuel id).unissued = none := by
  induction fuel generalizing id with
  | zero => rfl
  | succ fuel ih =>
      rw [Lineage.climb, Array.getElem?_eq_getElem hid]
      simp only
      split
      case h_1 => rfl
      case h_2 parent hparent => exact ih (hparents _ (Array.getElem_mem hid) parent hparent)

/-- Where types inherit from registered types only, all types are
registered. -/
theorem registered_iff_lt
    (hparents : ∀ m ∈ s.models, ∀ p, m.parent = some p → p.index < s.models.size) :
    s.Registered id ↔ id.index < s.models.size := by
  constructor
  · intro h
    rcases Nat.lt_or_ge id.index s.models.size with hid | hid
    · exact hid
    · rw [Registered, lineage, Lineage.climb, Array.getElem?_eq_none hid] at h
      cases h
  · exact fun hid => climb_registered hparents _ hid

namespace Registered

variable (h : s.Registered id)
include h

theorem findSome? {β : Type} (f : Model → Option β) :
    (s.lineage id).findSome? f = .ok ((s.lineage id).types.findSome? fun t => f t.2) := by
  unfold Lineage.findSome?
  rw [h]
  cases (s.lineage id).types.findSome? fun t => f t.2 <;> rfl

theorem model : ∃ m, s.model id = .ok m := by
  unfold Schema.model
  cases hm : s.models[id.index]? with
  | some m => exact ⟨m, rfl⟩
  | none =>
      rw [Registered, lineage, Lineage.climb, hm] at h
      cases h

theorem name : ∃ name, s.name id = .ok name := by
  obtain ⟨m, hm⟩ := h.model
  exact ⟨m.name, by simp only [Schema.name, hm]; rfl⟩

theorem table_eq : s.table id =
    match (s.lineage id).types.findSome? (·.2.table) with
    | some table => .ok table
    | none => s.name id := by
  unfold Schema.table
  rw [h.findSome?]
  cases (s.lineage id).types.findSome? (·.2.table) <;> rfl

theorem baseName_eq : s.baseName id =
    match (s.lineage id).types.getLast? with
    | some (_, m) => .ok m.name
    | none => s.name id := by
  have hall : (s.lineage id).all = .ok (s.lineage id).types := by
    unfold Lineage.all
    rw [h]
  simp only [Schema.baseName, hall, bind, Except.bind]
  cases (s.lineage id).types.getLast? <;> rfl

theorem hasColumn_eq (column : String) : s.hasColumn id column = .ok
    (match (s.lineage id).types.findSome? fun t => if t.2.declares column then some () else none with
    | some () => some true
    | none => if (s.lineage id).any (!·.columns.isEmpty) then some false else none) := by
  unfold Schema.hasColumn
  simp only [h.findSome?]
  cases (s.lineage id).types.findSome? fun t => if t.2.declares column then some () else none <;>
    rfl

theorem table : ∃ table, s.table id = .ok table := by
  rw [h.table_eq]
  split
  · exact ⟨_, rfl⟩
  · exact h.name

theorem endpoint : ∃ e, s.endpoint id = .ok e := by
  obtain ⟨table, htable⟩ := h.table
  have hbase : ∃ base, s.baseName id = .ok base := by
    rw [h.baseName_eq]
    split
    · exact ⟨_, rfl⟩
    · exact h.name
  obtain ⟨base, hbase⟩ := hbase
  exact ⟨.plain table base, by simp only [Schema.endpoint, htable, hbase]; rfl⟩

theorem hasColumn (column : String) : ∃ known, s.hasColumn id column = .ok known :=
  ⟨_, h.hasColumn_eq column⟩

theorem association_eq (name : String) : s.association id name =
    match (s.lineage id).types.findSome? (·.2.association? name) with
    | some a => .ok a
    | none => s.name id >>= fun model => .error (.of (.unknownAssociation model name)) := by
  unfold Schema.association
  simp only [h.findSome?]
  cases (s.lineage id).types.findSome? (·.2.association? name) <;> rfl

theorem association_error {name : String} {f : Failure}
    (hf : s.association id name = .error f) :
    ¬ s.Declares id name
      ∧ ∃ m, s.model id = .ok m ∧ f = .of (.unknownAssociation m.name name) := by
  rw [h.association_eq] at hf
  split at hf
  case h_1 => cases hf
  case h_2 hnone =>
    obtain ⟨m, hm⟩ := h.model
    simp only [Schema.name, hm] at hf
    cases hf
    exact ⟨by simpa [Declares, Model.association?] using hnone, m, hm, rfl⟩

end Registered

/-- An association that is found is declared. -/
theorem declares_of_association {name : String} {a : Association}
    (h : s.association id name = .ok a) : s.Declares id name := by
  obtain ⟨t, ht, ha⟩ := association_ok h
  exact ⟨t, ht, a, List.mem_of_find?_eq_some ha, by simpa using List.find?_some ha⟩

theorem Linked.target (hs : s.Linked) {name : String} {a : Association}
    (h : s.association id name = .ok a) : s.Registered a.target := by
  obtain ⟨m, hm, ha⟩ := association_mem h
  exact hs m hm a ha

end Schema

/-! ## Broken promises -/

/-- The computation fails only where a promise was broken. -/
def Breaks {α : Type} (x : Except Failure α) : Prop :=
  ∀ ⦃f⦄, x = .error f → ∃ fault, f = .broken fault

namespace Breaks

variable {α β : Type}

theorem pure (a : α) : Breaks (.ok a) := by
  intro f h
  cases h

theorem bind {x : Except Failure α} {f : α → Except Failure β} (hx : Breaks x)
    (hf : ∀ a, Breaks (f a)) : Breaks (x >>= f) := by
  intro e h
  rcases except_bind_error.mp h with h | ⟨a, -, h⟩
  · exact hx h
  · exact hf a h

end Breaks

namespace Lineage

variable (l : Lineage)

theorem findSome?_breaks {β : Type} (f : Model → Option β) : Breaks (l.findSome? f) := by
  intro e h
  unfold findSome? at h
  split at h <;> cases h
  exact ⟨_, rfl⟩

theorem all_breaks : Breaks l.all := by
  intro e h
  unfold all at h
  split at h <;> cases h
  exact ⟨_, rfl⟩

end Lineage

namespace Schema

variable (s : Schema) (id : ModelId)

theorem model_breaks : Breaks (s.model id) := by
  intro e h
  unfold model at h
  split at h <;> cases h
  exact ⟨_, rfl⟩

theorem name_breaks : Breaks (s.name id) := (s.model_breaks id).bind fun _ => .pure _

theorem table_breaks : Breaks (s.table id) := by
  refine ((s.lineage id).findSome?_breaks _).bind fun table => ?_
  cases table with
  | none => exact s.name_breaks id
  | some table => exact .pure table

theorem endpoint_breaks : Breaks (s.endpoint id) := by
  have hbase : Breaks (s.baseName id) := by
    refine (s.lineage id).all_breaks.bind fun types => ?_
    split
    · exact .pure _
    · exact s.name_breaks id
  exact (s.table_breaks id).bind fun _ => hbase.bind fun _ => .pure _

theorem hasColumn_breaks (column : String) : Breaks (s.hasColumn id column) := by
  refine ((s.lineage id).findSome?_breaks _).bind fun found => ?_
  cases found <;> exact .pure _

/-- An association that is not found is the only thing to refuse. -/
theorem association_fails {name : String} {f : Failure} (h : s.association id name = .error f) :
    (∃ fault, f = .broken fault) ∨ ∃ model, f = .of (.unknownAssociation model name) := by
  rcases except_bind_error.mp h with hlookup | ⟨found, -, h⟩
  · exact .inl ((s.lineage id).findSome?_breaks _ hlookup)
  · cases found with
    | some a => cases h
    | none =>
        rcases except_bind_error.mp h with hname | ⟨model, -, h⟩
        · exact .inl (s.name_breaks id hname)
        · cases h
          exact .inr ⟨model, rfl⟩

end Schema

end Criteria
