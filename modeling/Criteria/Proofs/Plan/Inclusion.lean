import Criteria.Proofs.Plan.Walk
import Criteria.Proofs.Schema.Additions

/-!
# Planning in a schema that keeps its answers

A plan that succeeds has found all that it has looked up. So where a second
schema finds whatever the first finds, planning comes to the same in both
(`Planner.Within`). Failures are not compared: what is not found in the
first may well be found in the second.

The two plannings may start from different places. Past the first
association they stand at the same place, and go on in the two schemas.

The main statement, `Schema.Enlarged.compile_kept`, is about schemas that
calls have enlarged: the queries of earlier filters stay what they are.
-/

namespace Criteria

open Sql (Connective JoinKind)

/-! ## Planners that come to the same -/

namespace Planner

variable {α β : Type}

/-- What the first comes to, the second comes to as well. -/
def Within (x y : Planner α) : Prop := ∀ d r, x.run d = .ok r → y.run d = .ok r

theorem Within.refl (x : Planner α) : Within x x := fun _ _ h => h

theorem Within.bind {x y : Planner α} {f g : α → Planner β} (hxy : Within x y)
    (hfg : ∀ a, Within (f a) (g a)) : Within (x >>= f) (y >>= g) := by
  intro d r h
  obtain ⟨⟨a, d₁⟩, hx, hf⟩ := except_bind_ok.mp h
  exact except_bind_ok.mpr ⟨(a, d₁), hxy d _ hx, hfg a d₁ r hf⟩

theorem Within.lift {x y : Except Failure α} (h : ∀ a, x = .ok a → y = .ok a) :
    Within (liftM x) (liftM y) := by
  rintro d ⟨a, d'⟩ hlift
  obtain ⟨hx, rfl⟩ := lift_ok.mp hlift
  exact lift_ok.mpr ⟨h a hx, rfl⟩

end Planner

open Planner (Within)

/-! ## Two places -/

/-- The places go by one label, and what is found for the first is found
for the other. -/
structure Place.Included (s : Schema) (here : Place) (t : Schema) (other : Place) : Prop where
  label : here.label = other.label
  lookups : s.Included here.model t other.model

section

variable {s t : Schema} {here other : Place}

theorem Schema.Keeps.place (hst : s.Keeps t) (here : Place) : here.Included s t here :=
  ⟨rfl, hst here.model⟩

theorem Restriction.plan_within (h : here.Included s t other) (r : Restriction) :
    Within (r.plan s here) (r.plan t other) := by
  rintro d ⟨part, d'⟩ hplan
  obtain ⟨form, values, hform, rfl, rfl⟩ := Restriction.plan_ok hplan
  rw [Restriction.plan_run, hform, h.label]

theorem Place.newEntry_within (h : here.Included s t other) (hst : s.Keeps t) {names : Names}
    {a : Association} {kind : JoinKind} {r : JoinEntry × Names}
    (hentry : newEntry s names here a kind = .ok r) : newEntry t names other a kind = .ok r := by
  obtain ⟨table, htable, hentry⟩ := except_bind_ok.mp hentry
  obtain ⟨ownerEnd, howner, hentry⟩ := except_bind_ok.mp hentry
  obtain ⟨targetEnd, htarget, hentry⟩ := except_bind_ok.mp hentry
  rw [h.label] at hentry
  refine except_bind_ok.mpr ⟨table, (hst a.target).table _ htable, ?_⟩
  refine except_bind_ok.mpr ⟨ownerEnd, h.lookups.endpoint _ howner, ?_⟩
  exact except_bind_ok.mpr ⟨targetEnd, (hst a.target).endpoint _ htarget, hentry⟩

theorem Place.enter_within (h : here.Included s t other) (hst : s.Keeps t) (association : String)
    (kind : JoinKind) : Within (here.enter s association kind) (other.enter t association kind) := by
  intro d r henter
  rw [Place.enter_run] at henter ⊢
  obtain ⟨a, ha, henter⟩ := except_bind_ok.mp henter
  have hfound := h.lookups.association association a (whileHaving_eq_ok.mp ha)
  refine except_bind_ok.mpr ⟨a, whileHaving_eq_ok.mpr hfound, ?_⟩
  rw [h.label] at henter
  cases hjoined : d.entry? other.label a.name with
  | some entry =>
      rw [hjoined] at henter
      exact henter
  | none =>
      rw [hjoined] at henter
      obtain ⟨new, hnew, hresult⟩ := except_map_ok.mp henter
      exact except_map_ok.mpr ⟨new, newEntry_within h hst hnew, hresult⟩

mutual

theorem Node.plan_within {here other : Place} (h : here.Included s t other) (hst : s.Keeps t)
    (outer : Connective) :
    ∀ node : Node, Within (node.plan s outer here) (node.plan t outer other)
  | .restriction r => (Restriction.plan_within h r).bind fun _ => .refl _
  | .group ⟨connective, _, children⟩ =>
      (Node.planAll_within h hst connective children).bind fun _ => .refl _
  -- Below the join both stand at the same place.
  | .join association kind ⟨connective, _, children⟩ =>
      (Place.enter_within h hst association kind).bind fun target =>
        (Node.planAll_within (hst.place target) hst connective children).bind fun _ => .refl _

theorem Node.planAll_within {here other : Place} (h : here.Included s t other) (hst : s.Keeps t)
    (outer : Connective) :
    ∀ nodes : List Node, Within (Node.planAll s outer here nodes) (Node.planAll t outer other nodes)
  | [] => .refl _
  | child :: rest => (Node.plan_within h hst outer child).bind fun _ =>
      (Node.planAll_within h hst outer rest).bind fun _ => .refl _

end

theorem Place.column_within (h : here.Included s t other) {column text : String}
    (hcolumn : here.column s column = .ok text) : other.column t column = .ok text := by
  rw [Place.column, h.label] at hcolumn
  rw [Place.column]
  split at hcolumn
  · rename_i hplain
    rw [if_pos hplain]
    exact hcolumn
  · rename_i hplain
    obtain ⟨known, hknown, hcolumn⟩ := except_bind_ok.mp hcolumn
    rw [if_neg hplain]
    exact except_bind_ok.mpr ⟨known, h.lookups.hasColumn column known hknown, hcolumn⟩

theorem Place.follow_within {here other : Place} (h : here.Included s t other) (hst : s.Keeps t)
    {association : String} (rest : List String) :
    Within (here.follow s (association :: rest)) (other.follow t (association :: rest)) := by
  induction rest generalizing here other association with
  | nil => exact (Place.enter_within h hst association .inner).bind fun _ => .refl _
  | cons next rest ih =>
      exact (Place.enter_within h hst association .inner).bind fun target => ih (hst.place target)

theorem ColumnRef.plan_within (h : here.Included s t other) (hst : s.Keeps t)
    (column : ColumnRef) : Within (column.plan s here) (column.plan t other) := by
  cases column with
  | literal sql => exact .refl _
  | name column => exact .lift fun _ => Place.column_within h
  | path associations column =>
      cases associations with
      | nil => exact .lift fun _ => Place.column_within h
      | cons association rest =>
          exact (Place.follow_within h hst rest).bind fun target =>
            .lift fun _ => Place.column_within (hst.place target)

theorem ColumnRef.planAll_within (h : here.Included s t other) (hst : s.Keeps t)
    (columns : List ColumnRef) :
    Within (ColumnRef.planAll s here columns) (ColumnRef.planAll t other columns) := by
  induction columns with
  | nil => exact .refl _
  | cons column rest ih =>
      exact (ColumnRef.plan_within h hst column).bind fun _ => ih.bind fun _ => .refl _

theorem OrderEntry.planAll_within (h : here.Included s t other) (hst : s.Keeps t)
    (entries : List OrderEntry) :
    Within (OrderEntry.planAll s here entries) (OrderEntry.planAll t other entries) := by
  induction entries with
  | nil => exact .refl _
  | cons entry rest ih =>
      exact (ColumnRef.plan_within h hst entry.column).bind fun _ => ih.bind fun _ => .refl _

theorem Scope.plan_within (h : here.Included s t other) (hst : s.Keeps t) (scope : Scope) :
    Within (scope.plan s here) (scope.plan t other) :=
  (Node.planAll_within h hst _ _).bind fun _ => (OrderEntry.planAll_within h hst _).bind fun _ =>
    (ColumnRef.planAll_within h hst _).bind fun _ => .refl _

end

/-! ## Queries -/

namespace Schema

variable {s t : Schema}

/-- A filter that compiles for the one type compiles for the other, to the
same query. -/
theorem Included.compile {id other : ModelId} (h : s.Included id t other) (hst : s.Keeps t)
    {config : Config} {scope : Scope} {base : Option BaseCondition} {q : Query}
    (hq : s.compile config id scope base = .ok q) : t.compile config other scope base = .ok q := by
  obtain ⟨table, parts, order, groupBy, draft, htable, hrun, rfl⟩ := compile_planned hq
  have hplace : Place.Included s ⟨id, table⟩ t ⟨other, table⟩ := ⟨rfl, h⟩
  rw [compile_run (h.table table htable), Scope.plan_within hplace hst scope _ _ hrun]
  rfl

/-- Calls that bring in no association under a name that its owner finds
already leave the queries of all filters what they are. -/
theorem Enlarged.compile_kept {log log' : Log} (h : s.Enlarged log t log') (hs : s.Recorded log)
    {config : Config} {id : ModelId} {scope : Scope} {base : Option BaseCondition} {q : Query}
    (hq : s.compile config id scope base = .ok q) : t.compile config id scope base = .ok q :=
  (h.keeps hs id).compile (h.keeps hs) hq

end Schema

/-- Posts, features among them, have comments. -/
def Schema.desk : Schema :=
  [.register { name := "Comment", table := some "comments" },
    .association ⟨0⟩ { name := "comments", kind := .hasMany, target := ⟨2⟩ }].foldl
    SchemaCall.after newsstand

theorem Schema.desk_recorded :
    desk.Recorded [("Post", ⟨0⟩), ("Feature", ⟨1⟩), ("Comment", ⟨2⟩)] := by
  have hcomment := newsstand_recorded.call
    (.register { name := "Comment", table := some "comments" }) nofun
    ⟨fun _ => rfl, List.nodup_nil⟩
  exact hcomment.call
    (.association ⟨0⟩ { name := "comments", kind := .hasMany, target := ⟨2⟩ }) (by decide) trivial

/-- Comments are registered anew with another table, and features have
reviews, which nothing else has, and heirs. -/
def Schema.deskGrown : Schema :=
  [.tryRegister { name := "Comment", table := some "remarks" },
    .register { name := "Comment", table := some "remarks" },
    .association ⟨1⟩ { name := "reviews", kind := .hasMany, target := ⟨3⟩ },
    .fragment ⟨1⟩ { name := "recent", params := [], body := fun _ => (Scope.limit 5 none).on },
    .subtype ⟨1⟩ "Cover"].foldl SchemaCall.after desk

theorem Schema.desk_enlarged : desk.Enlarged
    [("Post", ⟨0⟩), ("Feature", ⟨1⟩), ("Comment", ⟨2⟩)] deskGrown
    [("Post", ⟨0⟩), ("Feature", ⟨1⟩), ("Comment", ⟨2⟩), ("Comment", ⟨3⟩), ("Cover", ⟨4⟩)] := by
  have hsame : desk.Enlarged [("Post", ⟨0⟩), ("Feature", ⟨1⟩), ("Comment", ⟨2⟩)] desk
      [("Post", ⟨0⟩), ("Feature", ⟨1⟩), ("Comment", ⟨2⟩)] := .refl
  have hrefused := hsame.call (.tryRegister { name := "Comment", table := some "remarks" }) nofun
    ⟨fun _ => rfl, List.nodup_nil⟩ trivial
  have hremarks := hrefused.call (.register { name := "Comment", table := some "remarks" }) nofun
    ⟨fun _ => rfl, List.nodup_nil⟩ trivial
  have hreviews := hremarks.call
    (.association ⟨1⟩ { name := "reviews", kind := .hasMany, target := ⟨3⟩ }) (by decide) trivial
    fun b hb => by cases hb
  have hrecent := hreviews.call
    (.fragment ⟨1⟩ { name := "recent", params := [], body := fun _ => (Scope.limit 5 none).on })
    (by decide) trivial trivial
  exact hrecent.call (.subtype ⟨1⟩ "Cover") (by decide) trivial trivial

/-- What has comments, in the order of their texts. -/
def Scope.discussed : Scope :=
  { kind := .root
    group := { connective := .all, children := [
      .join "comments" .inner { connective := .all, children := [] }] }
    clauses := { order := [⟨.path ["comments"] "text", .asc⟩] } }

/-- Features go on being joined with the comments that they had. -/
theorem Schema.Enlarged.compile_kept_desk :
    deskGrown.find "Comment" = .ok ⟨3⟩
      ∧ ∃ q, desk.compile {} ⟨1⟩ .discussed none = .ok q
        ∧ deskGrown.compile {} ⟨1⟩ .discussed none = .ok q
        ∧ q.joins = ["INNER JOIN \"comments\" ON \"comments\".post_id = \"posts\".id"] := by
  have hcompile : ∃ q, desk.compile {} ⟨1⟩ .discussed none = .ok q
      ∧ q.joins = ["INNER JOIN \"comments\" ON \"comments\".post_id = \"posts\".id"] :=
    ⟨_, rfl, by decide +kernel⟩
  obtain ⟨q, hq, hjoins⟩ := hcompile
  exact ⟨rfl, q, hq, desk_enlarged.compile_kept desk_recorded hq, hjoins⟩

end Criteria
