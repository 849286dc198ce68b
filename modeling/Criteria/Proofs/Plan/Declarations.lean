import Criteria.Proofs.Plan.Chart

/-!
# Declared names

The names under which a statement brings in its tables: that of the
subject, and for every join that of the target and, where there is one,
that of the table between.

The name of a target is chosen among those that are free, so it never
stands for anything else. The name of a table between is not chosen: it
follows that of the target. It is looked up beforehand only for the case
that both tables keep their own names. The main statement,
`compile_declares`, tells the statements in which some name is declared
twice from all others: a table between takes a name that is in use, and
that is the only way.

The invariant behind it is that the names in use are those declared, and
that each entry was made when the names before it were.
-/

namespace Criteria

open Sql (Hop JoinKind)

/-- The names under which an entry brings in its tables. -/
def JoinEntry.declares (e : JoinEntry) : List String := e.hops.map (·.label)

/-- The names that a statement declares, from left to right. -/
def declaredNames (table : String) (joins : List JoinEntry) : List String :=
  table :: joins.flatMap JoinEntry.declares

theorem declaredNames_snoc (table : String) (joins : List JoinEntry) (e : JoinEntry) :
    declaredNames table (joins ++ [e]) = declaredNames table joins ++ e.declares := by
  simp [declaredNames]

/-- The table between takes a name in use. If the target goes by the name
of its table, the table between keeps its own name: then the two are the
same table, or the table between is there already. Otherwise the name
made of both is in use. -/
def JoinEntry.Clashes (used : List String) (e : JoinEntry) : Prop :=
  ∃ between target, e.hops = [between, target]
    ∧ if target.label = target.table then
        between.table = target.table ∨ between.table ∈ used
      else between.table ++ "_" ++ target.label ∈ used

theorem JoinEntry.not_clashes_of_hops {used : List String} {e : JoinEntry} {target : Hop}
    (h : e.hops = [target]) : ¬ e.Clashes used := by
  rintro ⟨_, _, htwo, -⟩
  cases h.symm.trans htwo

theorem JoinEntry.clashes_iff_of_hops {used : List String} {e : JoinEntry} {between target : Hop}
    (h : e.hops = [between, target]) :
    e.Clashes used ↔ if target.label = target.table then
        between.table = target.table ∨ between.table ∈ used
      else between.table ++ "_" ++ target.label ∈ used := by
  constructor
  · rintro ⟨_, _, htwo, hclash⟩
    cases h.symm.trans htwo
    exact hclash
  · exact fun hclash => ⟨between, target, h, hclash⟩

/-! ## Entries as they are made -/

/-- The tables of an entry that was made when the names were in use. -/
structure JoinEntry.Made (used : List String) (e : JoinEntry) : Prop where
  fresh : e.label ∉ used
  hops : (∃ target, e.hops = [target] ∧ target.label = e.label)
    ∨ ∃ between target, e.hops = [between, target] ∧ target.label = e.label
        ∧ between.label = if target.label = target.table then between.table
            else between.table ++ "_" ++ target.label

theorem Association.hops_form (a : Association) (owner target : Endpoint) :
    (a.joinTable? = none ∧ ∃ t, a.hops owner target = [t] ∧ t.label = target.label)
      ∨ ∃ j between t, a.joinTable? = some j ∧ a.hops owner target = [between, t]
          ∧ t.label = target.label ∧ t.table = target.table ∧ between.table = j.table
          ∧ between.label = j.labelFor target := by
  unfold Association.joinTable? Association.hops
  cases a.kind with
  | belongsTo => exact .inl ⟨rfl, _, rfl, rfl⟩
  | hasOne => exact .inl ⟨rfl, _, rfl, rfl⟩
  | hasMany => exact .inl ⟨rfl, _, rfl, rfl⟩
  | manyToMany j => exact .inr ⟨j, _, _, rfl, rfl, rfl, rfl, rfl, rfl⟩

theorem JoinTable.labelFor_eq (j : JoinTable) (target : Endpoint) :
    j.labelFor target
      = if target.label = target.table then j.table else j.table ++ "_" ++ target.label := by
  unfold JoinTable.labelFor Endpoint.isAliased
  by_cases h : target.label = target.table <;> simp [h]

/-- A name is longer than its end. -/
theorem append_underscore_ne (x y : String) : x ++ "_" ++ y ≠ y := by
  intro h
  have hlength := congrArg String.length h
  simp only [String.length_append, show "_".length = 1 from rfl] at hlength
  omega

namespace JoinEntry.Made

variable {used used' : List String} {e : JoinEntry}

theorem of_mem_iff (h : e.Made used) (hmem : ∀ name, name ∈ used' ↔ name ∈ used) :
    e.Made used' :=
  ⟨fun hlabel => h.fresh ((hmem _).mp hlabel), h.hops⟩

/-- The names stay distinct unless the table between gets in the way. -/
theorem nodup_append_iff (h : e.Made used) :
    (used ++ e.declares).Nodup ↔ used.Nodup ∧ ¬ e.Clashes used := by
  rcases h.hops with ⟨target, hhops, hlabel⟩ | ⟨between, target, hhops, hlabel, hbetween⟩
  · have hno : ¬ e.Clashes used := JoinEntry.not_clashes_of_hops hhops
    have hnotMem : target.label ∉ used := hlabel ▸ h.fresh
    simp only [JoinEntry.declares, hhops, List.map_singleton]
    rw [List.nodup_append_comm, List.singleton_append, List.nodup_cons]
    exact ⟨fun hnodup => ⟨hnodup.2, hno⟩, fun hnodup => ⟨hnotMem, hnodup.1⟩⟩
  · have hnotMem : target.label ∉ used := hlabel ▸ h.fresh
    have hclash : e.Clashes used ↔ between.label = target.label ∨ between.label ∈ used := by
      rw [JoinEntry.clashes_iff_of_hops hhops, hbetween]
      by_cases hown : target.label = target.table
      · rw [if_pos hown, if_pos hown, hown]
      · simp only [if_neg hown, append_underscore_ne, false_or]
    rw [hclash]
    simp only [JoinEntry.declares, hhops, List.map_cons, List.map_nil]
    rw [List.nodup_append_comm, List.cons_append, List.cons_append, List.nil_append,
      List.nodup_cons, List.nodup_cons, List.mem_cons, not_or]
    constructor
    · rintro ⟨⟨hne, hnotUsed⟩, -, hnodup⟩
      exact ⟨hnodup, hne, hnotUsed⟩
    · rintro ⟨hnodup, hne, hnotUsed⟩
      exact ⟨⟨hne, hnotUsed⟩, hnotMem, hnodup⟩

end JoinEntry.Made

/-- A new entry is made of free names, but for the table between; what it
declares is in use from then on. -/
theorem Place.newEntry_made {s : Schema} {names names' : Names} {owner : Place}
    {a : Association} {kind : JoinKind} {e : JoinEntry}
    (h : Place.newEntry s names owner a kind = .ok (e, names')) :
    e.Made names.used
      ∧ ∀ name, name ∈ names'.used ↔ name ∈ names.used ∨ name ∈ e.declares := by
  obtain ⟨ownerEnd, targetEnd, -, -, -, -, -, hlabel, hhops, hnames⟩ := Place.newEntry_ok h
  have hfresh : e.label ∉ names.used := by
    rw [hlabel]
    exact Names.choose_fresh _ _ _ _ _
  rw [hnames, JoinEntry.declares]
  rcases a.hops_form (ownerEnd.under owner.label) (targetEnd.under e.label) with
    ⟨hnone, t, hone, htlabel⟩ | ⟨j, between, t, hj, htwo, htlabel, httable, hbtable, hblabel⟩
  · rw [← hhops] at hone
    refine ⟨⟨hfresh, .inl ⟨t, hone, htlabel⟩⟩, fun name => ?_⟩
    simp [hnone, hone, htlabel, Endpoint.under]
  · rw [← hhops] at htwo
    have hbetween : between.label = if t.label = t.table then between.table
        else between.table ++ "_" ++ t.label := by
      rw [hblabel, JoinTable.labelFor_eq, htlabel, httable, hbtable]
    refine ⟨⟨hfresh, .inr ⟨between, t, htwo, htlabel, hbetween⟩⟩, fun name => ?_⟩
    simp [hj, htwo, htlabel, hblabel, Endpoint.under, or_comm]

/-! ## Walks keep the account -/

/-- The names in use are those declared, and every entry was made when
those before it were. -/
structure Declared (subject : Place) (d : Draft) : Prop where
  used : ∀ name, name ∈ d.names.used ↔ name ∈ declaredNames subject.label d.joins
  made : ∀ earlier e later, d.joins = earlier ++ e :: later →
    e.Made (declaredNames subject.label earlier)

namespace Declared

variable {s : Schema} {subject : Place} {d d' : Draft}

theorem start (id : ModelId) (table : String) (base : Option BaseCondition) :
    Declared ⟨id, table⟩ (.start table base) where
  used := fun _ => by simp [Draft.start, declaredNames]
  made := fun earlier e later h => by simp [Draft.start] at h

theorem bind (h : Declared subject d) (values : List Value) : Declared subject (d.bind values) :=
  ⟨h.used, h.made⟩

theorem enter {owner target : Place} {association : String} {kind : JoinKind}
    (h : Declared subject d)
    (henter : (owner.enter s association kind).run d = .ok (target, d')) :
    Declared subject d' := by
  obtain ⟨a, -, -, ⟨e, -, -, rfl⟩ | ⟨-, e, names, hnew, -, rfl⟩⟩ := Place.enter_ok henter
  · exact h
  obtain ⟨hmade, hnames⟩ := Place.newEntry_made hnew
  refine ⟨fun name => ?_, fun earlier f later hsplit => ?_⟩
  · rw [Draft.join, declaredNames_snoc, List.mem_append, ← h.used]
    exact hnames name
  · rcases append_cons_eq_snoc hsplit with ⟨rfl, rfl, -⟩ | ⟨later', hold, -⟩
    · exact hmade.of_mem_iff fun name => (h.used name).symm
    · exact h.made _ _ _ hold

theorem walk {sites : List Site} (h : Declared subject d) (hw : Walk s subject d sites d') :
    Declared subject d' := by
  induction hw with
  | nil => exact h
  | restriction _ _ _ ih => exact ih (h.bind _)
  | visit _ henter _ ih => exact ih (h.enter henter)

end Declared

/-! ## Names declared twice -/

theorem declaredNames_nodup_iff {table : String} {joins : List JoinEntry}
    (h : ∀ earlier e later, joins = earlier ++ e :: later →
      e.Made (declaredNames table earlier)) :
    (declaredNames table joins).Nodup ↔ ∀ earlier e later, joins = earlier ++ e :: later →
      ¬ e.Clashes (declaredNames table earlier) := by
  induction joins using List.reverseRecOn with
  | nil => simp [declaredNames]
  | append_singleton joins e ih =>
      have hlast : e.Made (declaredNames table joins) := h joins e [] rfl
      have ih := ih fun earlier f later hsplit =>
        h earlier f (later ++ [e]) (by rw [hsplit, List.append_assoc, List.cons_append])
      rw [declaredNames_snoc, hlast.nodup_append_iff, ih]
      constructor
      · rintro ⟨hold, hnew⟩ earlier f later hsplit
        rcases append_cons_eq_snoc hsplit with ⟨rfl, rfl, -⟩ | ⟨later', hbefore, -⟩
        · exact hnew
        · exact hold _ _ _ hbefore
      · intro hall
        refine ⟨fun earlier f later hsplit => ?_, hall joins e [] rfl⟩
        exact hall earlier f (later ++ [e])
          (by rw [hsplit, List.append_assoc, List.cons_append])

/-- A statement declares some name twice exactly if a table between takes
a name that was in use when it was joined. -/
theorem Schema.compile_declares {s : Schema} {config : Config} {id : ModelId} {scope : Scope}
    {base : Option BaseCondition} {q : Query} (h : s.compile config id scope base = .ok q) :
    ∃ plan table, s.plan id scope base = .ok plan ∧ q = plan.query config
      ∧ s.table id = .ok table
      ∧ ((declaredNames table plan.joins).Nodup ↔
          ∀ earlier e later, plan.joins = earlier ++ e :: later →
            ¬ e.Clashes (declaredNames table earlier)) := by
  obtain ⟨plan, hplan, rfl⟩ := Schema.compile_ok h
  obtain ⟨table, _, _, d, htable, -, -, hwalk, -, -, hjoins⟩ := Schema.plan_ok hplan
  have hdeclared : Declared ⟨id, table⟩ d := (Declared.start id table base).walk hwalk
  refine ⟨plan, table, hplan, rfl, htable, ?_⟩
  rw [hjoins]
  exact declaredNames_nodup_iff hdeclared.made

/-- Posts with logs, whose table happens to go by the name that the table
of links takes between a post and a related one. -/
def Schema.linkLogs : Schema :=
  { models := #[
      { name := "Post", table := some "posts"
        associations := [
          { name := "logs", kind := .hasMany, target := ⟨1⟩, foreignKey := some "post_id" },
          { name := "related", target := ⟨0⟩
            kind := .manyToMany
              { table := "links", sourceColumn := some "from_id"
                targetColumn := some "to_id" } }] },
      { name := "Log", table := some "links_related_posts" }] }

/-- Posts with logs and related posts. -/
def Scope.loggedAndRelated : Scope :=
  { kind := .root
    group := { connective := .all, children := [
      .join "logs" .inner .conjunction, .join "related" .inner .conjunction] } }

theorem declaredNames_not_nodup_linkLogs :
    ∃ plan, Schema.linkLogs.plan ⟨0⟩ .loggedAndRelated none = .ok plan
      ∧ ¬ (declaredNames "posts" plan.joins).Nodup := by
  have hplan : ∃ plan, Schema.linkLogs.plan ⟨0⟩ .loggedAndRelated none = .ok plan
      ∧ declaredNames "posts" plan.joins
        = ["posts", "links_related_posts", "links_related_posts", "related_posts"] :=
    ⟨_, rfl, rfl⟩
  obtain ⟨plan, hok, hnames⟩ := hplan
  refine ⟨plan, hok, ?_⟩
  rw [hnames]
  decide

theorem Schema.compile_declares_linkLogs :
    ∃ q plan, Schema.linkLogs.compile {} ⟨0⟩ .loggedAndRelated none = .ok q
      ∧ Schema.linkLogs.plan ⟨0⟩ .loggedAndRelated none = .ok plan
      ∧ ((declaredNames "posts" plan.joins).Nodup ↔
          ∀ earlier e later, plan.joins = earlier ++ e :: later →
            ¬ e.Clashes (declaredNames "posts" earlier)) := by
  have hcompile : ∃ q, Schema.linkLogs.compile {} ⟨0⟩ .loggedAndRelated none = .ok q := ⟨_, rfl⟩
  obtain ⟨q, h⟩ := hcompile
  obtain ⟨plan, table, hplan, -, htable, hiff⟩ := Schema.compile_declares h
  cases htable
  exact ⟨q, plan, h, hplan, hiff⟩

end Criteria
