import Criteria.Proofs.Filter.Sound
import Criteria.Proofs.Plan.Joins

/-!
# The first fault

Which filters compile, and which failure the others get. The main
statement, `compile_faults`: a filter compiles if and only if every site
of its document is sound, and otherwise the blame is on the first site
that is not.

A planner judges sites (`Planner.Judges`) if it gets past them when all
are sound and stops at the first that is not; this is composed along the
binds of the planner, so each of its functions has one lemma. None of them
knows how far a draft has come: whether a site is sound is settled by the
schema and the path, and it makes no difference whether an association was
joined before.
-/

namespace Criteria

open Sql (Condition Connective JoinKind)

/-! ## Types at the end of paths -/

namespace Schema

variable {s : Schema} {id : ModelId}

theorem modelAt_snoc {path : List String} {owner : ModelId} {name : String} {a : Association}
    (hpath : s.modelAt id path = .ok owner) (ha : s.association owner name = .ok a) :
    s.modelAt id (path ++ [name]) = .ok a.target := by
  induction path generalizing id with
  | nil =>
      cases hpath
      rw [List.nil_append, modelAt, ha]
      rfl
  | cons first rest ih =>
      obtain ⟨b, hb, hrest⟩ := except_bind_ok.mp hpath
      rw [List.cons_append, modelAt, hb]
      exact ih hrest

end Schema

/-! ## Sites -/

namespace Site

variable (s : Schema) (id : ModelId)

/-- What stands at the site can be planned: a restriction with what its
operator needs, or an association of the type that is reached so far. -/
def Sound : Site → Prop
  | .restriction _ r => r.Sound
  | .visit v => ∃ model, s.modelAt id v.path = .ok model ∧ s.Declares model v.association

/-- The failure is about what is wrong at the site, and names the type
that the site stands under. -/
inductive Blamed : Site → Failure → Prop
  | restriction {path : List String} {r : Restriction} {model : ModelId} {m : Model}
      {problem : RestrictionProblem} (hpath : s.modelAt id path = .ok model)
      (hm : s.model model = .ok m) (hfault : r.Fault problem) :
      Blamed (.restriction path r)
        ((Failure.of (.malformedRestriction r.column problem)).map (·.withModel m.name))
  | visit {v : Visit} {model : ModelId} {m : Model} (hpath : s.modelAt id v.path = .ok model)
      (hm : s.model model = .ok m) (hnone : ¬ s.Declares model v.association) :
      Blamed (.visit v)
        ((Failure.of (.unknownAssociation m.name v.association)).map (·.withOperation "having"))

variable {s id}

theorem Blamed.not_sound {site : Site} {f : Failure} (h : site.Blamed s id f) :
    ¬ site.Sound s id := by
  cases h with
  | restriction _ _ hfault => exact hfault.not_sound
  | visit hpath _ hnone =>
      rintro ⟨model, hpath', hdeclares⟩
      rw [hpath] at hpath'
      cases hpath'
      exact hnone hdeclares

end Site

/-- The failure is about the first site that is not sound. -/
def FirstFault (s : Schema) (id : ModelId) (sites : List Site) (f : Failure) : Prop :=
  ∃ earlier site later, sites = earlier ++ site :: later
    ∧ (∀ x ∈ earlier, x.Sound s id) ∧ ¬ site.Sound s id ∧ site.Blamed s id f

theorem FirstFault.single {s : Schema} {id : ModelId} {site : Site} {f : Failure}
    (h : site.Blamed s id f) : FirstFault s id [site] f :=
  ⟨[], site, [], rfl, by simp, h.not_sound, h⟩

/-! ## Judging sites -/

namespace Planner

variable {s : Schema} {id : ModelId} {α β : Type} {xs ys : List Site}

/-- The planner succeeds only if the sites are sound, and fails only with
the first one that is not. -/
structure Judges (s : Schema) (id : ModelId) (x : Planner α) (sites : List Site) : Prop where
  sound : ∀ {d a d'}, x.run d = .ok (a, d') → ∀ site ∈ sites, site.Sound s id
  fault : ∀ {d f}, x.run d = .error f → FirstFault s id sites f

theorem Judges.pure (a : α) : Judges s id (Pure.pure a : Planner α) [] where
  sound _ _ hsite := nomatch hsite
  fault h := by cases h

theorem Judges.lift {x : Except Failure α} {a : α} (hx : x = .ok a) :
    Judges s id (liftM x : Planner α) [] where
  sound _ _ hsite := nomatch hsite
  fault h := by
    rw [hx] at h
    cases h

theorem Judges.bind {x : Planner α} {f : α → Planner β} (hx : Judges s id x xs)
    (hf : ∀ {d a d'}, x.run d = .ok (a, d') → Judges s id (f a) ys) :
    Judges s id (x >>= f) (xs ++ ys) where
  sound h := by
    obtain ⟨a, d₁, hfirst, hrest⟩ := Planner.bind_ok.mp h
    intro site hsite
    rcases List.mem_append.mp hsite with hsite | hsite
    · exact hx.sound hfirst site hsite
    · exact (hf hfirst).sound hrest site hsite
  fault h := by
    rw [StateT.run_bind] at h
    rcases except_bind_error.mp h with hfirst | ⟨⟨a, d₁⟩, hfirst, hrest⟩
    · obtain ⟨earlier, site, later, rfl, hfault⟩ := hx.fault hfirst
      exact ⟨earlier, site, later ++ ys, by simp, hfault⟩
    · obtain ⟨earlier, site, later, rfl, hearlier, hfault⟩ := (hf hfirst).fault hrest
      refine ⟨xs ++ earlier, site, later, by simp, fun y hy => ?_, hfault⟩
      rcases List.mem_append.mp hy with hy | hy
      · exact hx.sound hfirst y hy
      · exact hearlier y hy

/-- What follows meets no site. -/
theorem Judges.then {x : Planner α} {f : α → Planner β} (hx : Judges s id x xs)
    (hf : ∀ {d a d'}, x.run d = .ok (a, d') → Judges s id (f a) []) :
    Judges s id (x >>= f) xs := by
  have h := hx.bind hf
  rwa [List.append_nil] at h

end Planner

open Planner (Judges)

/-! ## The functions of the planner -/

section

variable {s : Schema} {id : ModelId}

/-- A place at the end of a path, its type registered. -/
structure Place.At (s : Schema) (id : ModelId) (path : List String) (here : Place) : Prop where
  model : s.modelAt id path = .ok here.model
  registered : s.Registered here.model

theorem Restriction.plan_judges {path : List String} {here : Place} {r : Restriction}
    (hhere : here.At s id path) (hr : r.Equipped) :
    Judges s id (r.plan s here) [.restriction path r] where
  sound h := by
    obtain ⟨form, values, hform, -⟩ := Restriction.plan_ok h
    intro site hsite
    obtain rfl := List.mem_singleton.mp hsite
    exact Restriction.form_sound hform
  fault {d f} h := by
    rw [Restriction.plan_run] at h
    cases hform : r.form d.bound with
    | ok result =>
        rw [hform] at h
        cases h
    | error problem =>
        obtain ⟨m, hm⟩ := hhere.registered.model
        rw [hform, Schema.name, hm] at h
        cases h
        exact .single (.restriction hhere.model hm (Restriction.form_fault hr hform))

theorem Place.column_judges {path : List String} {here : Place} (hhere : here.At s id path)
    (column : String) : Judges s id (liftM (here.column s column) : Planner String) [] := by
  obtain ⟨known, hknown⟩ := hhere.registered.hasColumn column
  have htotal : ∃ text, here.column s column = .ok text := by
    unfold Place.column
    split
    · exact ⟨_, rfl⟩
    · simp only [hknown, bind, Except.bind, pure, Except.pure]
      split <;> exact ⟨_, rfl⟩
  obtain ⟨text, htext⟩ := htotal
  exact .lift htext

theorem Place.newEntry_total {names : Names} {owner : Place} {a : Association} {kind : JoinKind}
    (howner : s.Registered owner.model) (htarget : s.Registered a.target) :
    ∃ result, newEntry s names owner a kind = .ok result := by
  obtain ⟨table, htable⟩ := htarget.table
  obtain ⟨ownerEnd, hownerEnd⟩ := howner.endpoint
  obtain ⟨targetEnd, htargetEnd⟩ := htarget.endpoint
  simp only [newEntry, htable, hownerEnd, htargetEnd, bind, Except.bind]
  cases a.joinTable? <;> exact ⟨_, rfl⟩

theorem Place.enter_at (hs : s.Linked) {path : List String} {owner target : Place} {name : String}
    {kind : JoinKind} {d d' : Draft} (howner : owner.At s id path)
    (h : (owner.enter s name kind).run d = .ok (target, d')) : target.At s id (path ++ [name]) := by
  obtain ⟨a, ha, -, hcases⟩ := Place.enter_ok h
  have htarget : target.model = a.target := by
    rcases hcases with ⟨e, -, rfl, -⟩ | ⟨-, e, names, -, rfl, -⟩ <;> rfl
  constructor
  · rw [htarget]
    exact Schema.modelAt_snoc howner.model ha
  · rw [htarget]
    exact hs.target ha

theorem Place.enter_judges (hs : s.Linked) {path : List String} {owner : Place} {name : String}
    {kind : JoinKind} (howner : owner.At s id path) :
    Judges s id (owner.enter s name kind) [.visit ⟨path, name, kind⟩] where
  sound h := by
    obtain ⟨a, ha, -⟩ := Place.enter_ok h
    intro site hsite
    obtain rfl := List.mem_singleton.mp hsite
    exact ⟨owner.model, howner.model, Schema.declares_of_association ha⟩
  fault {d f} h := by
    rw [Place.enter_run] at h
    cases ha : s.association owner.model name with
    | error f' =>
        obtain ⟨hnone, m, hm, rfl⟩ := howner.registered.association_error ha
        rw [ha] at h
        cases h
        exact .single (.visit howner.model hm hnone)
    | ok a =>
        -- Nothing fails once the association is found.
        obtain ⟨⟨entry, names⟩, hentry⟩ : ∃ result, newEntry s d.names owner a kind = .ok result :=
          Place.newEntry_total howner.registered (hs.target ha)
        rw [ha] at h
        simp only [whileHaving, Except.mapError, bind, Except.bind, hentry, Except.map] at h
        split at h <;> cases h

mutual

theorem Node.plan_judges (hs : s.Linked) {outer : Connective} {path : List String} {here : Place}
    (hhere : here.At s id path) : ∀ {node : Node}, (∀ site ∈ node.sites path, site.Equipped) →
      Judges s id (node.plan s outer here) (node.sites path)
  | .restriction r, hequipped =>
      (Restriction.plan_judges hhere (hequipped _ (List.mem_singleton.mpr rfl))).then
        fun _ => .pure _
  | .group ⟨connective, negated, children⟩, hequipped => by
      refine (Node.planAll_judges hs hhere hequipped).then fun {_ parts _} _ => ?_
      split <;> exact .pure _
  | .join association kind ⟨connective, negated, children⟩, hequipped => by
      refine (Place.enter_judges hs hhere).bind fun {_ target _} htarget => ?_
      have hthere := Place.enter_at hs hhere htarget
      have hbody : ∀ site ∈ Node.allSites (path ++ [association]) children, site.Equipped :=
        fun site hsite => hequipped site (List.mem_cons_of_mem _ hsite)
      refine (Node.planAll_judges hs hthere hbody).then fun {_ parts _} _ => ?_
      split <;> exact .pure _

theorem Node.planAll_judges (hs : s.Linked) {outer : Connective} {path : List String} {here : Place}
    (hhere : here.At s id path) : ∀ {nodes : List Node},
      (∀ site ∈ Node.allSites path nodes, site.Equipped) →
      Judges s id (Node.planAll s outer here nodes) (Node.allSites path nodes)
  | [], _ => .pure _
  | child :: rest, hequipped =>
      have hfirst : ∀ site ∈ child.sites path, site.Equipped :=
        fun site hsite => hequipped site (List.mem_append_left _ hsite)
      have hrest : ∀ site ∈ Node.allSites path rest, site.Equipped :=
        fun site hsite => hequipped site (List.mem_append_right _ hsite)
      (Node.plan_judges hs hhere hfirst).bind fun _ =>
        (Node.planAll_judges hs hhere hrest).then fun _ => .pure _

end

theorem Place.follow_at (hs : s.Linked) {path associations : List String}
    {here target : Place} {d d' : Draft} (hhere : here.At s id path)
    (h : (here.follow s associations).run d = .ok (target, d')) :
    target.At s id (path ++ associations) := by
  induction associations generalizing here path d with
  | nil =>
      obtain ⟨rfl, -⟩ := Planner.pure_ok.mp h
      rwa [List.append_nil]
  | cons association rest ih =>
      obtain ⟨next, _, henter, h⟩ := Planner.bind_ok.mp h
      rw [List.append_cons]
      exact ih (Place.enter_at hs hhere henter) h

theorem Place.follow_judges (hs : s.Linked) {path associations : List String} {here : Place}
    (hhere : here.At s id path) :
    Judges s id (here.follow s associations) ((Visit.along path associations).map .visit) := by
  induction associations generalizing here path with
  | nil => exact .pure _
  | cons association rest ih =>
      exact (Place.enter_judges hs hhere).bind fun henter =>
        ih (Place.enter_at hs hhere henter)

theorem ColumnRef.plan_judges (hs : s.Linked) {subject : Place} (hsubject : subject.At s id [])
    (column : ColumnRef) :
    Judges s id (column.plan s subject) (column.visits.map .visit) := by
  cases column with
  | literal sql => exact .pure _
  | name column => exact Place.column_judges hsubject column
  | path associations column =>
      exact (Place.follow_judges hs hsubject).then fun hfollow =>
        Place.column_judges (Place.follow_at hs hsubject hfollow) column

theorem ColumnRef.planAll_judges (hs : s.Linked) {subject : Place} (hsubject : subject.At s id [])
    (columns : List ColumnRef) :
    Judges s id (ColumnRef.planAll s subject columns)
      ((columns.flatMap ColumnRef.visits).map .visit) := by
  induction columns with
  | nil => exact .pure _
  | cons column rest ih =>
      rw [List.flatMap_cons, List.map_append]
      exact (ColumnRef.plan_judges hs hsubject column).bind fun _ =>
        ih.then fun _ => .pure _

theorem OrderEntry.planAll_judges (hs : s.Linked) {subject : Place} (hsubject : subject.At s id [])
    (entries : List OrderEntry) :
    Judges s id (OrderEntry.planAll s subject entries)
      (((entries.map (·.column)).flatMap ColumnRef.visits).map .visit) := by
  induction entries with
  | nil => exact .pure _
  | cons entry rest ih =>
      rw [List.map_cons, List.flatMap_cons, List.map_append]
      exact (ColumnRef.plan_judges hs hsubject entry.column).bind fun _ =>
        ih.then fun _ => .pure _

theorem Scope.plan_judges (hs : s.Linked) {subject : Place} (hsubject : subject.At s id [])
    {scope : Scope} (hequipped : scope.Equipped) :
    Judges s id (scope.plan s subject) scope.sites := by
  rw [Scope.sites, Scope.columns, List.flatMap_append, List.map_append]
  exact (Node.planAll_judges hs hsubject (hequipped [])).bind fun _ =>
    (OrderEntry.planAll_judges hs hsubject _).bind fun _ =>
      (ColumnRef.planAll_judges hs hsubject _).then fun _ => .pure _

end

/-! ## Compiling -/

/-- A filter compiles if and only if all sites of its document are sound.
Otherwise it is refused for the first one that is not. -/
theorem Schema.compile_faults {s : Schema} {id : ModelId} {scope : Scope} (hid : s.Registered id)
    (hs : s.Linked) (hscope : scope.Built) (base : Option BaseCondition) (config : Config) :
    ((∃ q, s.compile config id scope base = .ok q) ↔ ∀ site ∈ scope.sites, site.Sound s id)
      ∧ ∀ f, s.compile config id scope base = .error f → FirstFault s id scope.sites f := by
  obtain ⟨table, htable⟩ := hid.table
  have hsubject : (⟨id, table⟩ : Place).At s id [] := ⟨rfl, hid⟩
  have hjudges := Scope.plan_judges hs hsubject hscope.equipped
  rw [Schema.compile_run htable]
  cases hrun : (scope.plan s ⟨id, table⟩).run (.start table base) with
  | ok result =>
      have hsound := hjudges.sound hrun
      refine ⟨⟨fun _ => hsound, fun _ => ⟨_, rfl⟩⟩, fun f h => ?_⟩
      cases h
  | error f =>
      have hfault := hjudges.fault hrun
      refine ⟨⟨?_, ?_⟩, fun f' h => ?_⟩
      · rintro ⟨q, h⟩
        cases h
      · intro hsound
        obtain ⟨earlier, site, later, hsites, -, hunsound, -⟩ := hfault
        exact absurd (hsound site (by simp [hsites])) hunsound
      · cases h
        exact hfault

theorem Schema.forum_linked : Schema.forum.Linked := by
  intro m hm a ha
  simp only [Schema.forum, List.mem_toArray, List.mem_cons, List.not_mem_nil, or_false] at hm
  rcases hm with rfl | rfl
  · simp only [List.mem_cons, List.not_mem_nil, or_false] at ha
    rcases ha with rfl | rfl <;> rfl
  · obtain rfl := List.mem_singleton.mp ha
    rfl

/-- Posts by one of a list of authors that is no list, in the order of
publishers, whom posts do not have. -/
def Scope.misfiled : Scope :=
  (Step.run [] (.orderBy (.path ["publisher"] "name") (.settled .asc))
    (Step.run [] (.having "author" .inner
      [.restrict "name" false [.inList (.value (.string "Ann"))]]) .root).1).1

/-- Users are blamed for the restriction, which stands under them; nobody
asks for publishers. -/
theorem Schema.compile_faults_misfiled :
    ∃ f, Schema.forum.compile {} ⟨0⟩ .misfiled none = .error f
      ∧ FirstFault .forum ⟨0⟩ Scope.misfiled.sites f
      ∧ f = (Failure.of (.malformedRestriction "name" (.notAList "string"))).map
          (·.withModel "User") := by
  have hcompile : Schema.forum.compile {} ⟨0⟩ .misfiled none
      = .error ((Failure.of (.malformedRestriction "name" (.notAList "string"))).map
          (·.withModel "User")) := rfl
  have hregistered : Schema.forum.Registered ⟨0⟩ := rfl
  obtain ⟨-, hfault⟩ := Schema.compile_faults hregistered Schema.forum_linked
    (.call [] _ (.call [] _ .root)) none {}
  exact ⟨_, hcompile, hfault _ hcompile, rfl⟩

end Criteria
