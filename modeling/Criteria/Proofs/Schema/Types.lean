import Criteria.Proofs.Schema.Growth

/-!
# Types and their numbers

A registration gives out a number, and calls use numbers that were given
out before. The main statement, `Schema.Recorded.types_settled`, is about
all schemas that such calls have grown, and about the log of their
registrations. Every lineage comes to an end, at a type with a table, so no
type has to lend its name to one; a name means the newest registration in
the log; and whatever calls come later, a type stays what it is, and so
does everything that it inherits (`Schema.Extends`).

The climb of a lineage is fuelled. `Schema.Ascent` is the climb without
fuel: a chain of parents has one only if it ends.
-/

namespace Criteria

/-! ## What a type is for good -/

/-- What is settled when a type is registered. Associations and named
filters come in later. -/
def Model.bare (m : Model) : Model := { m with associations := [], fragments := [] }

theorem Model.bare_eq {m m' : Model} (h : m'.bare = m.bare) :
    m'.name = m.name ∧ m'.table = m.table ∧ m'.parent = m.parent ∧ m'.columns = m.columns := by
  simpa [bare] using h

namespace Schema

/-- A change of what is not for good leaves all types what they are. -/
theorem modify_bare (s : Schema) (id : ModelId) {change : Model → Model}
    (hbare : ∀ m, (change m).bare = m.bare) (i : Nat) :
    ∃ f : Model → Model, (∀ m, (f m).bare = m.bare)
      ∧ (s.modify id change).models[i]? = s.models[i]?.map f := by
  refine ⟨_, fun m => ?_, getElem?_modify ⟨i⟩⟩
  split
  · exact hbare m
  · rfl

/-- The second schema has all types of the first, under their numbers. -/
def Extends (s t : Schema) : Prop :=
  ∀ ⦃i : Nat⦄ ⦃m : Model⦄, s.models[i]? = some m → ∃ m', t.models[i]? = some m' ∧ m'.bare = m.bare

namespace Extends

variable {s t u : Schema}

theorem refl (s : Schema) : s.Extends s := fun _ m hm => ⟨m, hm, rfl⟩

theorem trans (h : s.Extends t) (h' : t.Extends u) : s.Extends u := by
  intro i m hm
  obtain ⟨m', hm', hbare⟩ := h hm
  obtain ⟨m'', hm'', hbare'⟩ := h' hm'
  exact ⟨m'', hm'', hbare'.trans hbare⟩

theorem register (s : Schema) (m : Model) : s.Extends (s.register m).1 := by
  intro i m' hm
  have hi : i < s.models.size := (Array.getElem?_eq_some_iff.mp hm).1
  have hne : i ≠ s.models.size := Nat.ne_of_lt hi
  exact ⟨m', by rw [Schema.register, Array.getElem?_push, if_neg hne, hm], rfl⟩

theorem modify (s : Schema) (id : ModelId) {change : Model → Model}
    (hbare : ∀ m, (change m).bare = m.bare) : s.Extends (s.modify id change) := by
  intro i m hm
  obtain ⟨f, hf, hlookup⟩ := s.modify_bare id hbare i
  rw [hm, Option.map_some] at hlookup
  exact ⟨f m, hlookup, hf m⟩

end Extends

/-! ## Lineages of a larger schema -/

/-- What a lineage is for good. -/
def bareTypes (s : Schema) (id : ModelId) : List (ModelId × Model) :=
  (s.lineage id).types.map fun t => (t.1, t.2.bare)

variable {s t : Schema} {id : ModelId}

theorem Ordered.bareTypes_eq (hs : s.Ordered) {m : Model} (hm : s.models[id.index]? = some m) :
    s.bareTypes id = (id, m.bare) :: match m.parent with
      | none => []
      | some p => s.bareTypes p := by
  rw [bareTypes, hs.lineage_eq hm]
  cases m.parent <;> rfl

/-- A lineage is climbed by parents, which are for good. -/
theorem Extends.bareTypes (h : s.Extends t) (hs : s.Ordered) (ht : t.Ordered)
    (hid : id.index < s.models.size) : t.bareTypes id = s.bareTypes id := by
  obtain ⟨n, hn⟩ : ∃ n, id.index < n := ⟨_, hid⟩
  induction n generalizing id with
  | zero => omega
  | succ n ih =>
      have hm := Array.getElem?_eq_getElem hid
      obtain ⟨m', hm', hbare⟩ := h hm
      obtain ⟨-, -, hparent, -⟩ := Model.bare_eq hbare
      rw [ht.bareTypes_eq hm', hs.bareTypes_eq hm, hbare, hparent]
      cases hp : s.models[id.index].parent with
      | none => rfl
      | some p =>
          have hlt := hs.parent hm p hp
          have habove : t.bareTypes p = s.bareTypes p := ih (by omega) (by omega)
          simp only [habove]

/-! ## Lookups of what is for good -/

namespace Registered

variable (h : s.Registered id)
include h

theorem table_bare : s.table id =
    match (s.bareTypes id).findSome? (·.2.table) with
    | some table => .ok table
    | none => s.name id := by
  rw [h.table_eq, bareTypes, List.findSome?_map]
  rfl

theorem baseName_bare : s.baseName id =
    match (s.bareTypes id).getLast? with
    | some (_, m) => .ok m.name
    | none => s.name id := by
  rw [h.baseName_eq, bareTypes, List.getLast?_map]
  cases (s.lineage id).types.getLast? <;> rfl

theorem hasColumn_bare (column : String) : s.hasColumn id column = .ok
    (match (s.bareTypes id).findSome? fun t => if t.2.declares column then some () else none with
    | some () => some true
    | none => if (s.bareTypes id).any (!·.2.columns.isEmpty) then some false else none) := by
  rw [h.hasColumn_eq, bareTypes, List.findSome?_map, List.any_map]
  rfl

end Registered

/-- The second schema answers for a type of the first as that does. -/
structure Settles (s t : Schema) (id : ModelId) : Prop where
  name : t.name id = s.name id
  table : t.table id = s.table id
  parent : (t.model id).map (·.parent) = (s.model id).map (·.parent)
  columns : (t.model id).map (·.columns) = (s.model id).map (·.columns)
  hasColumn : ∀ column, t.hasColumn id column = s.hasColumn id column
  lineage : (t.lineage id).types.map (·.1) = (s.lineage id).types.map (·.1)
  baseName : t.baseName id = s.baseName id

theorem Extends.settles (h : s.Extends t) (hs : s.Ordered) (ht : t.Ordered)
    (hid : id.index < s.models.size) : s.Settles t id := by
  obtain ⟨m, hm⟩ : ∃ m, s.models[id.index]? = some m := ⟨_, Array.getElem?_eq_getElem hid⟩
  obtain ⟨m', hm', hbare⟩ := h hm
  have hfirst : s.Registered id := hs.registered hid
  have hsecond : t.Registered id := ht.registered (index_lt_size hm')
  have htypes : t.bareTypes id = s.bareTypes id := h.bareTypes hs ht hid
  have hmodel : s.model id = .ok m := by rw [Schema.model, hm]
  have hmodel' : t.model id = .ok m' := by rw [Schema.model, hm']
  obtain ⟨hname, -, hparent, hcolumns⟩ := Model.bare_eq hbare
  have hname : t.name id = s.name id := by
    rw [Schema.name, Schema.name, hmodel, hmodel']
    exact congrArg Except.ok hname
  constructor
  case name => exact hname
  case table => rw [hsecond.table_bare, hfirst.table_bare, htypes, hname]
  case parent => rw [hmodel, hmodel', Except.map, Except.map, hparent]
  case columns => rw [hmodel, hmodel', Except.map, Except.map, hcolumns]
  case hasColumn =>
    intro column
    rw [hsecond.hasColumn_bare, hfirst.hasColumn_bare, htypes]
  case lineage =>
    have hids := congrArg (List.map Prod.fst) htypes
    rwa [Schema.bareTypes, Schema.bareTypes, List.map_map, List.map_map] at hids
  case baseName => rw [hsecond.baseName_bare, hfirst.baseName_bare, htypes, hname]

/-! ## Climbing without fuel -/

/-- The types that are met on the way from a type to one without a
parent. -/
inductive Ascent (s : Schema) : ModelId → List (ModelId × Model) → Prop
  | root {id : ModelId} {m : Model} (hm : s.model id = .ok m) (hp : m.parent = none) :
      Ascent s id [(id, m)]
  | inherit {id p : ModelId} {m : Model} {above : List (ModelId × Model)}
      (hm : s.model id = .ok m) (hp : m.parent = some p) (h : Ascent s p above) :
      Ascent s id ((id, m) :: above)

theorem model_eq_ok {m : Model} : s.model id = .ok m ↔ s.models[id.index]? = some m := by
  unfold Schema.model
  cases s.models[id.index]? <;> simp

namespace Ordered

variable (hs : s.Ordered)
include hs

theorem ascent (hid : id.index < s.models.size) : ∃ types, s.Ascent id types := by
  obtain ⟨n, hn⟩ : ∃ n, id.index < n := ⟨_, hid⟩
  induction n generalizing id with
  | zero => omega
  | succ n ih =>
      have hm := Array.getElem?_eq_getElem hid
      cases hp : s.models[id.index].parent with
      | none => exact ⟨_, .root (model_eq_ok.mpr hm) hp⟩
      | some p =>
          have hlt := hs.parent hm p hp
          have hp' : p.index < s.models.size := Nat.lt_trans hlt hid
          obtain ⟨above, habove⟩ := ih hp' (by omega)
          exact ⟨_, .inherit (model_eq_ok.mpr hm) hp habove⟩

/-- The lineage of a type is what is met on the way up. -/
theorem lineage_of_ascent {types : List (ModelId × Model)} (h : s.Ascent id types) :
    s.lineage id = { types } := by
  have hid : id.index < s.models.size := by
    cases h with
    | root hm _ => exact index_lt_size (model_eq_ok.mp hm)
    | inherit hm _ _ => exact index_lt_size (model_eq_ok.mp hm)
  have hregistered : (s.lineage id).unissued = none := hs.registered hid
  have htypes : (s.lineage id).types = types := by
    clear hid hregistered
    induction h with
    | root hm hp => rw [hs.lineage_eq (model_eq_ok.mp hm), hp]
    | inherit hm hp _ ih => simp only [hs.lineage_eq (model_eq_ok.mp hm), hp, ih]
  rw [← htypes, ← hregistered]

/-- Numbers go down along the way. -/
theorem ascent_descending {types : List (ModelId × Model)} (h : s.Ascent id types) :
    types.Pairwise fun x y => y.1.index < x.1.index := by
  -- What the step needs of the way above is that it stays below its start.
  suffices hboth : (∀ x ∈ types, x.1.index ≤ id.index)
      ∧ types.Pairwise fun x y => y.1.index < x.1.index from hboth.2
  induction h with
  | root hm hp => exact ⟨by simp, List.pairwise_singleton ..⟩
  | @inherit id p m above hm hp _ ih =>
      obtain ⟨hbelow, hpairwise⟩ := ih
      have hlt := hs.parent (model_eq_ok.mp hm) p hp
      constructor
      · intro x hx
        rcases List.mem_cons.mp hx with rfl | hx
        · exact Nat.le_refl _
        · exact Nat.le_of_lt (Nat.lt_of_le_of_lt (hbelow x hx) hlt)
      · rw [List.pairwise_cons]
        exact ⟨fun x hx => Nat.lt_of_le_of_lt (hbelow x hx) hlt, hpairwise⟩

end Ordered

theorem Ascent.last {types : List (ModelId × Model)} (h : s.Ascent id types) :
    ∃ nearer root, types = nearer ++ [root] ∧ s.model root.1 = .ok root.2
      ∧ root.2.parent = none := by
  induction h with
  | root hm hp => exact ⟨[], _, rfl, hm, hp⟩
  | inherit _ _ _ ih =>
      obtain ⟨nearer, root, rfl, hroot⟩ := ih
      exact ⟨_ :: nearer, root, rfl, hroot⟩

end Schema

/-! ## Registrations -/

/-- A type as it is described to a schema. It has a table of its own, unless
it is a copy of one that has a parent, and each named filter once. -/
structure Model.Described (m : Model) : Prop where
  table : m.parent = none → m.table.isSome
  fragments : m.fragmentNames.Nodup

namespace SchemaCall

def Described : SchemaCall → Prop
  | .register m | .tryRegister m | .subtypeWithTable _ m => m.Described
  | .subtype .. | .association .. | .fragment .. => True

/-- The types that a call inherits from or adds to. -/
def uses : SchemaCall → List ModelId
  | .register m | .tryRegister m => m.parent.toList
  | .subtype parent _ | .subtypeWithTable parent _ => [parent]
  | .association owner _ => [owner]
  | .fragment id _ => [id]

/-- What a call registers, if it succeeds: the name, and the number that
the caller gets. -/
def registered (s : Schema) : SchemaCall → Option (String × ModelId)
  | .register m => some (m.name, (s.register m).2)
  | .tryRegister m =>
    match s.tryRegister m with
    | .ok (_, id) => some (m.name, id)
    | .error _ => none
  | .subtype parent name => some (name, (s.registerSubtype parent name).2)
  | .subtypeWithTable parent m => some (m.name, (s.registerSubtypeWithTable parent m).2)
  | .association .. | .fragment .. => none

/-- All that a call can do. -/
inductive Does (s : Schema) (call : SchemaCall) : Prop
  | adds (m : Model) (hafter : call.after s = (s.register m).1)
      (hlog : call.registered s = some (m.name, ⟨s.models.size⟩))
      (htable : m.parent = none → m.table.isSome)
  | declares (id : ModelId) (change : Model → Model) (hbare : ∀ m, (change m).bare = m.bare)
      (hafter : call.after s = s.modify id change) (hlog : call.registered s = none)
  | nothing (hafter : call.after s = s) (hlog : call.registered s = none)

theorem does {call : SchemaCall} (hdescribed : call.Described) (s : Schema) : call.Does s := by
  cases call with
  | register m => exact .adds m rfl rfl hdescribed.table
  | tryRegister m =>
      cases htaken : s.find? m.name with
      | none =>
          have htry : s.tryRegister m = .ok (s.register m) := by rw [Schema.tryRegister, htaken]
          refine .adds m ?_ ?_ hdescribed.table
          · rw [after, run, htry]
            rfl
          · rw [registered, htry]
            rfl
      | some id =>
          have htry : s.tryRegister m = .error (.of (.duplicateModel m.name)) := by
            rw [Schema.tryRegister, htaken]
          refine .nothing ?_ ?_
          · rw [after, run, htry]
            rfl
          · rw [registered, htry]
  | subtype parent name =>
      exact .adds { name, table := none, parent := some parent } rfl rfl fun h => by cases h
  | subtypeWithTable parent m =>
      exact .adds { m with parent := some parent } rfl rfl fun h => by cases h
  | association owner a =>
      cases hmodel : s.model owner with
      | ok m =>
          refine .declares owner (fun m => { m with associations := a :: m.associations })
            (fun _ => rfl) ?_ rfl
          rw [after, run, Schema.addAssociation, hmodel]
          rfl
      | error f =>
          refine .nothing ?_ rfl
          rw [after, run, Schema.addAssociation, hmodel]
          rfl
  | fragment id f =>
      cases hdefine : s.defineFragment id f with
      | ok t =>
          obtain ⟨-, rfl⟩ := Schema.defineFragment_ok hdefine
          refine .declares id (fun m => { m with fragments := m.fragments ++ [f] })
            (fun _ => rfl) ?_ rfl
          rw [after, run, hdefine]
      | error e =>
          refine .nothing ?_ rfl
          rw [after, run, hdefine]

theorem after_extends {call : SchemaCall} (hdescribed : call.Described) (s : Schema) :
    s.Extends (call.after s) := by
  cases does hdescribed s with
  | adds m hafter _ _ => exact hafter ▸ .register s m
  | declares id change hbare hafter _ => exact hafter ▸ .modify s id hbare
  | nothing hafter _ => exact hafter.symm ▸ .refl s

end SchemaCall

namespace Schema

/-- Names and numbers of registrations, the oldest first. -/
abbrev Log := List (String × ModelId)

/-- The number that was last registered under a name. -/
def latest? (log : Log) (name : String) : Option ModelId :=
  (log.reverse.find? (·.1 = name)).map (·.2)

/-- Calls lead from a schema and its log to others. Some of them may have
failed; all use numbers that are in the log. -/
inductive Leads (s : Schema) (log : Log) : Schema → Log → Prop
  | refl : Leads s log s log
  | call {t : Schema} {log' : Log} (call : SchemaCall) (h : Leads s log t log')
      (huses : ∀ id ∈ call.uses, id ∈ log'.map (·.2)) (hdescribed : call.Described) :
      Leads s log (call.after t) (log' ++ (call.registered t).toList)

/-- A schema that calls have grown from nothing, and its log. -/
def Recorded (s : Schema) (log : Log) : Prop := Leads {} [] s log

theorem Leads.trans {s t u : Schema} {log log' log'' : Log} (h : Leads s log t log')
    (h' : Leads t log' u log'') : Leads s log u log'' := by
  induction h' with
  | refl => exact h
  | call call _ huses hdescribed ih => exact .call call ih huses hdescribed

theorem Leads.extends {s t : Schema} {log log' : Log} (h : Leads s log t log') : s.Extends t := by
  induction h with
  | refl => exact .refl s
  | call call _ _ hdescribed ih => exact ih.trans (call.after_extends hdescribed _)

/-! ## Names -/

theorem newest?_congr {models models' : Array Model} {name : String} {n : Nat}
    (h : ∀ i < n, models[i]?.any (·.name = name) = models'[i]?.any (·.name = name)) :
    newest? models name n = newest? models' name n := by
  induction n with
  | zero => rfl
  | succ n ih =>
      rw [newest?, newest?, h n (Nat.lt_succ_self n),
        ih fun i hi => h i (Nat.lt_succ_of_lt hi)]

theorem find?_register (s : Schema) (m : Model) (name : String) :
    (s.register m).1.find? name
      = if m.name = name then some ⟨s.models.size⟩ else s.find? name := by
  have hsize : (s.models.push m).size = s.models.size + 1 := Array.size_push ..
  have hrest : newest? (s.models.push m) name s.models.size = newest? s.models name s.models.size :=
    newest?_congr fun i hi => by rw [Array.getElem?_push, if_neg (Nat.ne_of_lt hi)]
  rw [find?, register, hsize, newest?, Array.getElem?_push_size, hrest]
  simp [find?]

theorem find?_modify (s : Schema) (id : ModelId) {change : Model → Model}
    (hbare : ∀ m, (change m).bare = m.bare) (name : String) :
    (s.modify id change).find? name = s.find? name := by
  have hsize : (s.modify id change).models.size = s.models.size := Array.size_modify ..
  rw [find?, hsize, find?]
  refine newest?_congr fun i _ => ?_
  obtain ⟨f, hf, hlookup⟩ := s.modify_bare id hbare i
  rw [hlookup]
  cases s.models[i]? with
  | none => rfl
  | some m =>
      obtain ⟨hname, -⟩ := Model.bare_eq (hf m)
      rw [Option.map_some, Option.any_some, Option.any_some, hname]

theorem latest?_snoc (log : Log) (name name' : String) (id : ModelId) :
    latest? (log ++ [(name, id)]) name' = if name = name' then some id else latest? log name' := by
  rw [latest?, List.reverse_append, List.reverse_singleton, List.singleton_append,
    List.find?_cons]
  by_cases h : name = name'
  · simp [h]
  · simp [h, latest?]

/-! ## Logs -/

/-- What a schema and the log of its registrations have in common. -/
structure Accounted (s : Schema) (log : Log) : Prop where
  grown : s.Grown
  numbers : log.map (·.2) = (List.range s.models.size).map ModelId.mk
  table : ∀ ⦃i : Nat⦄ ⦃m : Model⦄, s.models[i]? = some m → m.parent = none → m.table.isSome
  find : ∀ name, s.find? name = latest? log name

namespace Accounted

variable {s t : Schema} {log log' : Log}

theorem mem_numbers (h : s.Accounted log) {id : ModelId} :
    id ∈ log.map (·.2) ↔ id.index < s.models.size := by
  rw [h.numbers, List.mem_map]
  constructor
  · rintro ⟨i, hi, rfl⟩
    exact List.mem_range.mp hi
  · exact fun hid => ⟨id.index, List.mem_range.mpr hid, rfl⟩

theorem issued (h : s.Accounted log) {call : SchemaCall} (hdescribed : call.Described)
    (huses : ∀ id ∈ call.uses, id ∈ log.map (·.2)) : call.Issued s := by
  have hindex : ∀ id ∈ call.uses, id.index < s.models.size := fun id hid =>
    h.mem_numbers.mp (huses id hid)
  cases call with
  | register m => exact ⟨fun p hp => hindex p (Option.mem_toList.mpr hp), hdescribed.fragments⟩
  | tryRegister m => exact ⟨fun p hp => hindex p (Option.mem_toList.mpr hp), hdescribed.fragments⟩
  | subtype parent name => exact hindex parent (List.mem_singleton.mpr rfl)
  | subtypeWithTable parent m =>
      exact ⟨hindex parent (List.mem_singleton.mpr rfl), hdescribed.fragments⟩
  | association owner a => exact hindex owner (List.mem_singleton.mpr rfl)
  | fragment id f => exact hindex id (List.mem_singleton.mpr rfl)

theorem register (h : s.Accounted log) {m : Model} (hgrown : (s.register m).1.Grown)
    (htable : m.parent = none → m.table.isSome) :
    (s.register m).1.Accounted (log ++ [(m.name, ⟨s.models.size⟩)]) where
  grown := hgrown
  numbers := by
    have hsize : (s.register m).1.models.size = s.models.size + 1 := Array.size_push ..
    rw [hsize, List.range_succ, List.map_append, List.map_append, h.numbers]
    rfl
  table := by
    intro i m' hm
    rw [Schema.register, Array.getElem?_push] at hm
    split at hm
    · cases hm
      exact htable
    · exact h.table hm
  find name := by rw [find?_register, latest?_snoc, h.find]

theorem modify (h : s.Accounted log) {id : ModelId} {change : Model → Model}
    (hbare : ∀ m, (change m).bare = m.bare) (hgrown : (s.modify id change).Grown) :
    (s.modify id change).Accounted log where
  grown := hgrown
  numbers := by
    have hsize : (s.modify id change).models.size = s.models.size := Array.size_modify ..
    rw [hsize, h.numbers]
  table := by
    intro i m' hm
    obtain ⟨f, hf, hlookup⟩ := s.modify_bare id hbare i
    rw [hm] at hlookup
    obtain ⟨m, hold, rfl⟩ := Option.map_eq_some_iff.mp hlookup.symm
    obtain ⟨-, htable, hparent, -⟩ := Model.bare_eq (hf m)
    rw [htable, hparent]
    exact h.table hold
  find name := by rw [find?_modify s id hbare, h.find]

/-- One call keeps the account. -/
theorem call (h : s.Accounted log) {call : SchemaCall} (hdescribed : call.Described)
    (huses : ∀ id ∈ call.uses, id ∈ log.map (·.2)) :
    (call.after s).Accounted (log ++ (call.registered s).toList) := by
  have hgrown : (call.after s).Grown := h.grown.call call (h.issued hdescribed huses)
  cases SchemaCall.does hdescribed s with
  | adds m hafter hlog htable =>
      rw [hafter] at hgrown ⊢
      rw [hlog]
      exact h.register hgrown htable
  | declares id change hbare hafter hlog =>
      rw [hafter] at hgrown ⊢
      rw [hlog, Option.toList_none, List.append_nil]
      exact h.modify hbare hgrown
  | nothing hafter hlog =>
      rw [hafter, hlog, Option.toList_none, List.append_nil]
      exact h

theorem leads (h : s.Accounted log) (hleads : Leads s log t log') : t.Accounted log' := by
  induction hleads with
  | refl => exact h
  | call call _ huses hdescribed ih => exact ih.call hdescribed huses

end Accounted

theorem Recorded.accounted {s : Schema} {log : Log} (h : s.Recorded log) : s.Accounted log :=
  Accounted.leads ⟨.empty, rfl, nofun, fun _ => rfl⟩ h

/-! ## What holds of all types -/

/-- The way up from a type comes to an end. -/
structure Founded (s : Schema) (id : ModelId) (types : List (ModelId × Model)) : Prop where
  /-- It goes over parents, none of which is met twice, and is the
  lineage. -/
  ascent : s.Ascent id types
  nodup : (types.map (·.1)).Nodup
  lineage : s.lineage id = { types }
  /-- It ends where there is no parent, but a table. -/
  root : ∃ nearer root, types = nearer ++ [root] ∧ root.2.parent = none ∧ root.2.table.isSome
  /-- The table of the type is that of the nearest that declares one. -/
  table : ∃ nearer t farther table, types = nearer ++ t :: farther
    ∧ (∀ u ∈ nearer, u.2.table = none) ∧ t.2.table = some table ∧ s.table id = .ok table

theorem Accounted.founded {s : Schema} {log : Log} (h : s.Accounted log) {id : ModelId}
    (hid : id.index < s.models.size) : ∃ types, s.Founded id types := by
  have hs := h.grown.ordered
  obtain ⟨types, htypes⟩ := hs.ascent hid
  have hlineage := hs.lineage_of_ascent htypes
  obtain ⟨nearer, root, hsplit, hroot, hparent⟩ := htypes.last
  have htable : root.2.table.isSome := h.table (model_eq_ok.mp hroot) hparent
  refine ⟨types, htypes, ?_, hlineage, ⟨nearer, root, hsplit, hparent, htable⟩, ?_⟩
  · rw [List.nodup_iff_pairwise_ne, List.pairwise_map]
    refine (hs.ascent_descending htypes).imp fun {x y} hlt heq => ?_
    exact absurd (congrArg ModelId.index heq) (Nat.ne_of_gt hlt)
  · -- The root has a table, so the search for one ends with an answer.
    have hsome : (types.findSome? fun t => t.2.table).isSome := by
      rw [List.findSome?_isSome_iff]
      exact ⟨root, by simp [hsplit], htable⟩
    obtain ⟨table, hfound⟩ := Option.isSome_iff_exists.mp hsome
    obtain ⟨before, t, after, hat, ht, hbefore⟩ := List.findSome?_eq_some_iff.mp hfound
    refine ⟨before, t, after, table, hat, hbefore, ht, ?_⟩
    rw [(hs.registered hid).table_eq, hlineage, hfound]

/-- Types are numbered in the order of registration, and parents come
first, so every lineage ends. A name means what was last registered under
it. No later call changes what is settled. -/
theorem Recorded.types_settled {s : Schema} {log : Log} (h : s.Recorded log) :
    log.map (·.2) = (List.range s.models.size).map ModelId.mk
      ∧ (∀ id ∈ log.map (·.2), (∃ types, s.Founded id types)
        ∧ ∀ m p, s.model id = .ok m → m.parent = some p → p.index < id.index)
      ∧ (∀ name, s.find name = match latest? log name with
        | some id => .ok id
        | none => .error (.of (.unknownModel name)))
      ∧ ∀ t log', Leads s log t log' → ∀ id ∈ log.map (·.2), s.Settles t id := by
  have haccount := h.accounted
  have hs := haccount.grown.ordered
  refine ⟨haccount.numbers, fun id hid => ⟨?_, fun m p hm hp => ?_⟩, fun name => ?_,
    fun t log' hleads id hid => ?_⟩
  · exact haccount.founded (haccount.mem_numbers.mp hid)
  · exact hs.parent (model_eq_ok.mp hm) p hp
  · cases hlatest : latest? log name with
    | none => simp only [find, haccount.find, hlatest]
    | some id => simp only [find, haccount.find, hlatest]
  · have ht := (haccount.leads hleads).grown.ordered
    exact hleads.extends.settles hs ht (haccount.mem_numbers.mp hid)

/-- Posts, and features, which are posts. -/
def newsstand : Schema :=
  [.register { name := "Post", table := some "posts" }, .subtype ⟨0⟩ "Feature"].foldl
    SchemaCall.after {}

/-- The name of posts is given to articles, after an attempt that was
refused; stories are features with a table of their own. -/
def newsstandTaken : Schema :=
  [.tryRegister { name := "Post", table := some "articles" },
    .register { name := "Post", table := some "articles" },
    .association ⟨1⟩ { name := "posts", kind := .hasMany, target := ⟨2⟩ },
    .subtypeWithTable ⟨1⟩ { name := "Story", table := some "stories" }].foldl
    SchemaCall.after newsstand

theorem newsstand_recorded : newsstand.Recorded [("Post", ⟨0⟩), ("Feature", ⟨1⟩)] := by
  have hempty : Leads {} [] {} [] := .refl
  have hpost := hempty.call (.register { name := "Post", table := some "posts" }) nofun
    ⟨fun _ => rfl, List.nodup_nil⟩
  exact hpost.call (.subtype ⟨0⟩ "Feature") (by decide) trivial

theorem newsstandTaken_leads : Leads newsstand [("Post", ⟨0⟩), ("Feature", ⟨1⟩)]
    newsstandTaken [("Post", ⟨0⟩), ("Feature", ⟨1⟩), ("Post", ⟨2⟩), ("Story", ⟨3⟩)] := by
  have hsame : Leads newsstand [("Post", ⟨0⟩), ("Feature", ⟨1⟩)] newsstand
      [("Post", ⟨0⟩), ("Feature", ⟨1⟩)] := .refl
  have hrefused := hsame.call (.tryRegister { name := "Post", table := some "articles" }) nofun
    ⟨fun _ => rfl, List.nodup_nil⟩
  have hpost := hrefused.call (.register { name := "Post", table := some "articles" }) nofun
    ⟨fun _ => rfl, List.nodup_nil⟩
  have hposts := hpost.call
    (.association ⟨1⟩ { name := "posts", kind := .hasMany, target := ⟨2⟩ }) (by decide) trivial
  exact hposts.call (.subtypeWithTable ⟨1⟩ { name := "Story", table := some "stories" })
    (by decide) ⟨fun _ => rfl, List.nodup_nil⟩

/-- The name is that of another type now, and features stay in the table
of posts. -/
theorem Recorded.types_settled_newsstand :
    newsstandTaken.find "Post" = .ok ⟨2⟩
      ∧ (∃ types, newsstandTaken.Founded ⟨3⟩ types)
      ∧ newsstand.table ⟨1⟩ = .ok "posts" ∧ newsstandTaken.table ⟨1⟩ = .ok "posts"
      ∧ newsstandTaken.baseName ⟨1⟩ = newsstand.baseName ⟨1⟩ := by
  have hrecorded : newsstandTaken.Recorded
      [("Post", ⟨0⟩), ("Feature", ⟨1⟩), ("Post", ⟨2⟩), ("Story", ⟨3⟩)] :=
    newsstand_recorded.trans newsstandTaken_leads
  obtain ⟨-, hfounded, hfind, -⟩ := Recorded.types_settled hrecorded
  obtain ⟨-, -, -, hsettles⟩ := Recorded.types_settled newsstand_recorded
  have hfeature := hsettles _ _ newsstandTaken_leads ⟨1⟩ (by decide)
  have htable : newsstand.table ⟨1⟩ = .ok "posts" := rfl
  exact ⟨hfind "Post", (hfounded ⟨3⟩ (by decide)).1, htable, hfeature.table.trans htable,
    hfeature.baseName⟩

end Schema

end Criteria
