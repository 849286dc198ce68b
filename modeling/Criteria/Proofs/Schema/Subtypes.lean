import Criteria.Proofs.Schema.Additions

/-!
# Plain subtypes

A subtype that declares no table, no column and no association of its own
is looked through by every lookup that planning makes: each of them climbs
past it and ends where it ends for the ancestor (`Schema.PlainHeir.lookups`).
The only thing that tells the two apart is the name. It would be asked for
if there were no table in the lineage, which does not happen.
-/

namespace Criteria

/-- A type that leaves everything but named filters to its parent. -/
structure Model.Plain (m : Model) : Prop where
  table : m.table = none
  columns : m.columns = []
  associations : m.associations = []

namespace Schema

/-- The first type inherits from the second, and is plain, as are all
between the two. -/
inductive PlainHeir (s : Schema) : ModelId → ModelId → Prop
  | child {heir parent : ModelId} {m : Model} (hm : s.model heir = .ok m) (hplain : m.Plain)
      (hp : m.parent = some parent) : PlainHeir s heir parent
  | farther {heir parent ancestor : ModelId} {m : Model} (hm : s.model heir = .ok m)
      (hplain : m.Plain) (hp : m.parent = some parent) (h : PlainHeir s parent ancestor) :
      PlainHeir s heir ancestor

/-- What is looked up for the planner is the same for both types. -/
structure SameLookups (s : Schema) (id other : ModelId) : Prop where
  table : s.table id = s.table other
  endpoint : s.endpoint id = s.endpoint other
  hasColumn : ∀ column, s.hasColumn id column = s.hasColumn other column
  association : ∀ name a, s.association id name = .ok a ↔ s.association other name = .ok a
  declares : ∀ name, s.Declares id name ↔ s.Declares other name

variable {s : Schema} {heir ancestor : ModelId}

theorem SameLookups.symm (h : s.SameLookups heir ancestor) : s.SameLookups ancestor heir :=
  ⟨h.table.symm, h.endpoint.symm, fun column => (h.hasColumn column).symm,
    fun name a => (h.association name a).symm, fun name => (h.declares name).symm⟩

theorem SameLookups.included (h : s.SameLookups heir ancestor) : s.Included heir s ancestor :=
  ⟨fun _ hs => h.table ▸ hs, fun _ hs => h.endpoint ▸ hs, fun column _ hs => h.hasColumn column ▸ hs,
    fun name a => (h.association name a).mp⟩

/-- A subtype is plain when it is registered. -/
theorem registerSubtype_plainHeir (s : Schema) (parent : ModelId) (name : String) :
    (s.registerSubtype parent name).1.PlainHeir (s.registerSubtype parent name).2 parent := by
  have hm : (s.registerSubtype parent name).1.model (s.registerSubtype parent name).2
      = .ok { name, table := none, parent := some parent } :=
    model_eq_ok.mpr Array.getElem?_push_size
  exact .child hm ⟨rfl, rfl, rfl⟩ rfl

namespace PlainHeir

theorem trans {middle : ModelId} (h : s.PlainHeir heir middle) (h' : s.PlainHeir middle ancestor) :
    s.PlainHeir heir ancestor := by
  induction h with
  | child hm hplain hp => exact .farther hm hplain hp h'
  | farther hm hplain hp _ ih => exact .farther hm hplain hp (ih h')

theorem index_lt (h : s.PlainHeir heir ancestor) (hs : s.Ordered) :
    heir.index < s.models.size ∧ ancestor.index < heir.index := by
  induction h with
  | child hm _ hp =>
      have hheir := model_eq_ok.mp hm
      exact ⟨index_lt_size hheir, hs.parent hheir _ hp⟩
  | farther hm _ hp _ ih =>
      have hheir := model_eq_ok.mp hm
      exact ⟨index_lt_size hheir, Nat.lt_trans ih.2 (hs.parent hheir _ hp)⟩

/-- The lineage of the ancestor comes after plain types. -/
theorem lineage (h : s.PlainHeir heir ancestor) (hs : s.Ordered) :
    ∃ nearer, (s.lineage heir).types = nearer ++ (s.lineage ancestor).types
      ∧ ∀ t ∈ nearer, t.2.Plain := by
  induction h with
  | @child heir parent m hm hplain hp =>
      refine ⟨[(heir, m)], ?_, by simpa using hplain⟩
      simp only [hs.lineage_eq (model_eq_ok.mp hm), hp, List.singleton_append]
  | @farther heir parent ancestor m hm hplain hp _ ih =>
      obtain ⟨nearer, htypes, hnearer⟩ := ih
      refine ⟨(heir, m) :: nearer, ?_, ?_⟩
      · simp only [hs.lineage_eq (model_eq_ok.mp hm), hp, htypes, List.cons_append]
      · intro t ht
        rcases List.mem_cons.mp ht with rfl | ht
        · exact hplain
        · exact hnearer t ht

/-- A search that plain types have no answer to goes on to the ancestor. -/
theorem findSome? {β : Type} {f : Model → Option β} (hf : ∀ m, m.Plain → f m = none)
    (h : s.PlainHeir heir ancestor) (hs : s.Ordered) :
    ((s.lineage heir).types.findSome? fun t => f t.2)
      = (s.lineage ancestor).types.findSome? fun t => f t.2 := by
  obtain ⟨nearer, htypes, hnearer⟩ := h.lineage hs
  have hnone : (nearer.findSome? fun t => f t.2) = none :=
    List.findSome?_eq_none_iff.mpr fun t ht => hf t.2 (hnearer t ht)
  rw [htypes, List.findSome?_append, hnone, Option.none_or]

theorem declares_iff (h : s.PlainHeir heir ancestor) (hs : s.Ordered) (name : String) :
    s.Declares heir name ↔ s.Declares ancestor name := by
  obtain ⟨nearer, htypes, hnearer⟩ := h.lineage hs
  rw [Declares, Declares, htypes]
  constructor
  · rintro ⟨t, ht, a, ha, hname⟩
    rcases List.mem_append.mp ht with ht | ht
    · rw [(hnearer t ht).associations] at ha
      cases ha
    · exact ⟨t, ht, a, ha, hname⟩
  · rintro ⟨t, ht, hdeclared⟩
    exact ⟨t, List.mem_append_right _ ht, hdeclared⟩

section

variable {log : Log} (h : s.PlainHeir heir ancestor) (hs : s.Recorded log)
include h hs

theorem registered : s.Registered heir ∧ s.Registered ancestor := by
  have hordered := hs.accounted.grown.ordered
  obtain ⟨hheir, hlt⟩ := h.index_lt hordered
  exact ⟨hordered.registered hheir, hordered.registered (Nat.lt_trans hlt hheir)⟩

theorem founded : ∃ types, s.Founded ancestor types := by
  obtain ⟨hheir, hlt⟩ := h.index_lt hs.accounted.grown.ordered
  exact hs.accounted.founded (Nat.lt_trans hlt hheir)

theorem table_eq : s.table heir = s.table ancestor := by
  obtain ⟨hheir, hancestor⟩ := h.registered hs
  obtain ⟨types, hfounded⟩ := h.founded hs
  obtain ⟨before, t, after, table, hsplit, hbefore, ht, -⟩ := hfounded.table
  have hfound : (s.lineage ancestor).types.findSome? (·.2.table) = some table := by
    rw [hfounded.lineage]
    exact List.findSome?_eq_some_iff.mpr ⟨before, t, after, hsplit, ht, hbefore⟩
  rw [hheir.table_eq, hancestor.table_eq,
    h.findSome? (fun _ hplain => hplain.table) hs.accounted.grown.ordered, hfound]

theorem baseName_eq : s.baseName heir = s.baseName ancestor := by
  obtain ⟨hheir, hancestor⟩ := h.registered hs
  obtain ⟨nearer, htypes, -⟩ := h.lineage hs.accounted.grown.ordered
  obtain ⟨types, hfounded⟩ := h.founded hs
  obtain ⟨before, root, hsplit, -⟩ := hfounded.root
  have hlast : (s.lineage ancestor).types.getLast? = some root := by
    rw [hfounded.lineage, hsplit, List.getLast?_concat]
  rw [hheir.baseName_eq, hancestor.baseName_eq, htypes, List.getLast?_append, hlast,
    Option.some_or]

theorem hasColumn_eq (column : String) :
    s.hasColumn heir column = s.hasColumn ancestor column := by
  obtain ⟨hheir, hancestor⟩ := h.registered hs
  have hordered := hs.accounted.grown.ordered
  obtain ⟨nearer, htypes, hnearer⟩ := h.lineage hordered
  have hcolumn := h.findSome? (f := fun m => if m.declares column then some () else none)
    (fun m hplain => by simp [Model.declares, hplain.columns]) hordered
  have hnone : (nearer.any fun t => !t.2.columns.isEmpty) = false := by
    rw [List.any_eq_false]
    exact fun t ht => by simp [(hnearer t ht).columns]
  have hany : (s.lineage heir).any (!·.columns.isEmpty)
      = (s.lineage ancestor).any (!·.columns.isEmpty) := by
    rw [Lineage.any, Lineage.any, htypes, List.any_append, hnone, Bool.false_or]
  rw [hheir.hasColumn_eq, hancestor.hasColumn_eq, hcolumn, hany]

theorem association_eq_ok (name : String) (a : Association) :
    s.association heir name = .ok a ↔ s.association ancestor name = .ok a := by
  obtain ⟨hheir, hancestor⟩ := h.registered hs
  have hfound := h.findSome? (f := (·.association? name))
    (fun m hplain => by simp [Model.association?, hplain.associations])
    hs.accounted.grown.ordered
  rw [hheir.association_eq, hancestor.association_eq, hfound]
  cases (s.lineage ancestor).types.findSome? (·.2.association? name) with
  | some b => rfl
  | none =>
      -- Only here do the names come in.
      obtain ⟨m, hm⟩ := hheir.name
      obtain ⟨m', hm'⟩ := hancestor.name
      rw [hm, hm']
      constructor <;> intro h <;> cases h

theorem lookups : s.SameLookups heir ancestor where
  table := h.table_eq hs
  endpoint := by
    rw [Schema.endpoint, h.table_eq hs, h.baseName_eq hs, ← Schema.endpoint]
  hasColumn := h.hasColumn_eq hs
  association := h.association_eq_ok hs
  declares := h.declares_iff hs.accounted.grown.ordered

end

end PlainHeir

end Schema

end Criteria
