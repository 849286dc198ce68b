import Criteria.Proofs.Plan.Faults
import Criteria.Proofs.Plan.Inclusion
import Criteria.Proofs.Schema.Subtypes

/-!
# Plain subtypes are transparent

A filter on a plain subtype comes to the query that it comes to on the
ancestor. The two differ at one place of a statement only, the subject:
whatever association is followed from there, it leads to the same type from
both. So planning is compared at two places with the same lookups
(`Place.Twin`): what is found from the one is found from the other, so that
each comes to what the other comes to (`Scope.plan_within`).

The main statement, `Schema.PlainHeir.compile_transparent`, adds what
happens to filters that do not compile. The failures differ in the name of
the subject, and both are about the first site of the document that is not
sound, which is the same for both.
-/

namespace Criteria

/-! ## Planners that agree -/

namespace Planner

variable {α : Type}

/-- Both succeed on the same drafts and with the same results. -/
def Agrees (x y : Planner α) : Prop := ∀ d r, x.run d = .ok r ↔ y.run d = .ok r

theorem agrees_iff_within {x y : Planner α} : Agrees x y ↔ Within x y ∧ Within y x :=
  ⟨fun h => ⟨fun d r => (h d r).mp, fun d r => (h d r).mpr⟩,
    fun h d r => ⟨h.1 d r, h.2 d r⟩⟩

end Planner

open Planner (Agrees)

/-! ## Two places with the same lookups -/

section

variable {s : Schema} {here other : Place}

/-- The places go by one label, and their types answer alike. -/
structure Place.Twin (s : Schema) (here other : Place) : Prop where
  label : here.label = other.label
  lookups : s.SameLookups here.model other.model

theorem Place.Twin.symm (h : here.Twin s other) : other.Twin s here :=
  ⟨h.label.symm, h.lookups.symm⟩

theorem Place.Twin.included (h : here.Twin s other) : here.Included s s other :=
  ⟨h.label, h.lookups.included⟩

theorem Scope.plan_agrees (h : here.Twin s other) (scope : Scope) :
    Agrees (scope.plan s here) (scope.plan s other) :=
  Planner.agrees_iff_within.mpr ⟨Scope.plan_within h.included (.refl s) scope,
    Scope.plan_within h.symm.included (.refl s) scope⟩

end

/-! ## Queries -/

/-- Where all lookups are the same, so are the queries. -/
theorem Schema.SameLookups.compile_eq_ok {s : Schema} {id other : ModelId}
    (h : s.SameLookups id other) (config : Config) (scope : Scope) (base : Option BaseCondition)
    (q : Query) : s.compile config id scope base = .ok q
      ↔ s.compile config other scope base = .ok q := by
  cases htable : s.table other with
  | error f =>
      have hfails : s.table id = .error f := h.table.trans htable
      rw [Schema.compile, Schema.plan, hfails, Schema.compile, Schema.plan, htable]
      exact Iff.rfl
  | ok table =>
      have htwin : Place.Twin s ⟨id, table⟩ ⟨other, table⟩ := ⟨rfl, h⟩
      have hagrees := Scope.plan_agrees htwin scope
      rw [Schema.compile_run (h.table.trans htable), Schema.compile_run htable, except_map_ok,
        except_map_ok]
      simp only [hagrees (.start table base)]

/-! ## Failures -/

theorem split_unique {α : Type} {P : α → Prop} {xs ys xs' ys' : List α} {x y : α}
    (h : xs ++ x :: xs' = ys ++ y :: ys') (hxs : ∀ a ∈ xs, P a) (hx : ¬ P x)
    (hys : ∀ a ∈ ys, P a) (hy : ¬ P y) : xs = ys ∧ x = y ∧ xs' = ys' := by
  induction xs generalizing ys with
  | nil =>
      cases ys with
      | nil =>
          obtain ⟨rfl, rfl⟩ := List.cons.inj h
          exact ⟨rfl, rfl, rfl⟩
      | cons b ys =>
          obtain ⟨rfl, -⟩ := List.cons.inj h
          exact absurd (hys _ (List.mem_cons_self ..)) hx
  | cons a xs ih =>
      cases ys with
      | nil =>
          obtain ⟨rfl, -⟩ := List.cons.inj h
          exact absurd (hxs _ (List.mem_cons_self ..)) hy
      | cons b ys =>
          obtain ⟨rfl, hrest⟩ := List.cons.inj h
          obtain ⟨rfl, rfl, rfl⟩ := ih hrest (fun c hc => hxs c (List.mem_cons_of_mem _ hc))
            fun c hc => hys c (List.mem_cons_of_mem _ hc)
          exact ⟨rfl, rfl, rfl⟩

namespace Site

variable {s : Schema} {id other : ModelId}

/-- What a path leads to does not depend on which of the two it starts
from. -/
theorem sound_iff (h : s.SameLookups id other) (site : Site) :
    site.Sound s id ↔ site.Sound s other := by
  cases site with
  | restriction path r => exact Iff.rfl
  | visit v =>
      obtain ⟨path, association, kind⟩ := v
      cases path with
      | nil => simp [Sound, Schema.modelAt, h.declares]
      | cons first rest => simp [Sound, Schema.modelAt, except_bind_ok, h.association]

/-- The code of an error about the site. -/
def faultCode : Site → ErrorCode
  | .restriction .. => .malformedRestriction
  | .visit _ => .unknownAssociation

theorem Blamed.code {site : Site} {f : Failure} (h : site.Blamed s id f) :
    ∃ e, f = .refused e ∧ e.code = site.faultCode := by
  cases h with
  | restriction _ _ _ => exact ⟨_, rfl, rfl⟩
  | visit _ _ _ => exact ⟨_, rfl, rfl⟩

end Site

/-- The failures have one code, and both are about the first site that is
not sound, for one type and for the other. -/
def SameFault (s : Schema) (id other : ModelId) (sites : List Site) (f g : Failure) : Prop :=
  (∃ e e', f = .refused e ∧ g = .refused e' ∧ e.code = e'.code)
    ∧ ∃ earlier site later, sites = earlier ++ site :: later
      ∧ (∀ x ∈ earlier, x.Sound s id ∧ x.Sound s other)
      ∧ site.Blamed s id f ∧ site.Blamed s other g

theorem FirstFault.same {s : Schema} {id other : ModelId} {sites : List Site} {f g : Failure}
    (h : s.SameLookups id other) (hf : FirstFault s id sites f)
    (hg : FirstFault s other sites g) : SameFault s id other sites f g := by
  obtain ⟨earlier, site, later, hsplit, hearlier, hunsound, hblamed⟩ := hf
  obtain ⟨earlier', site', later', hsplit', hearlier', hunsound', hblamed'⟩ := hg
  simp only [← Site.sound_iff h] at hearlier' hunsound'
  obtain ⟨rfl, rfl, rfl⟩ :=
    split_unique (hsplit.symm.trans hsplit') hearlier hunsound hearlier' hunsound'
  obtain ⟨e, he, hcode⟩ := hblamed.code
  obtain ⟨e', he', hcode'⟩ := hblamed'.code
  refine ⟨⟨e, e', he, he', hcode.trans hcode'.symm⟩, earlier, site, later, hsplit, ?_, hblamed,
    hblamed'⟩
  exact fun x hx => ⟨hearlier x hx, (Site.sound_iff h x).mp (hearlier x hx)⟩

/-- A filter compiles for a plain subtype to the query that it compiles to
for the ancestor, or it fails for both at the same place. -/
theorem Schema.PlainHeir.compile_transparent {s : Schema} {log : Schema.Log}
    {heir ancestor : ModelId} (h : s.PlainHeir heir ancestor) (hs : s.Recorded log)
    (hlinked : s.Linked) {scope : Scope} (hscope : scope.Built) (base : Option BaseCondition)
    (config : Config) :
    (∃ q, s.compile config heir scope base = .ok q ∧ s.compile config ancestor scope base = .ok q)
      ∨ ∃ f g, s.compile config heir scope base = .error f
        ∧ s.compile config ancestor scope base = .error g
        ∧ SameFault s heir ancestor scope.sites f g := by
  have hlookups := h.lookups hs
  obtain ⟨hheir, hancestor⟩ := h.registered hs
  cases hf : s.compile config heir scope base with
  | ok q => exact .inl ⟨q, rfl, (hlookups.compile_eq_ok config scope base q).mp hf⟩
  | error f =>
      cases hg : s.compile config ancestor scope base with
      | ok q =>
          rw [(hlookups.compile_eq_ok config scope base q).mpr hg] at hf
          cases hf
      | error g =>
          obtain ⟨-, hfault⟩ := Schema.compile_faults hheir hlinked hscope base config
          obtain ⟨-, hfault'⟩ := Schema.compile_faults hancestor hlinked hscope base config
          exact .inr ⟨f, g, rfl, rfl, (hfault f hf).same hlookups (hfault' g hg)⟩

/-- Features may make the cover, and all posts have comments. -/
def Schema.coverage : Schema :=
  [.register { name := "Comment", table := some "comments" },
    .association ⟨0⟩ { name := "comments", kind := .hasMany, target := ⟨2⟩ },
    .fragment ⟨1⟩ { name := "recent", params := [], body := fun _ => (Scope.limit 5 none).on },
    .subtype ⟨1⟩ "Cover"].foldl SchemaCall.after newsstand

theorem Schema.coverage_recorded : Schema.coverage.Recorded
    [("Post", ⟨0⟩), ("Feature", ⟨1⟩), ("Comment", ⟨2⟩), ("Cover", ⟨3⟩)] := by
  have hcomment := newsstand_recorded.call
    (.register { name := "Comment", table := some "comments" }) nofun
    ⟨fun _ => rfl, List.nodup_nil⟩
  have hcomments := hcomment.call
    (.association ⟨0⟩ { name := "comments", kind := .hasMany, target := ⟨2⟩ }) (by decide) trivial
  have hrecent := hcomments.call
    (.fragment ⟨1⟩ { name := "recent", params := [], body := fun _ => (Scope.limit 5 none).on })
    (by decide) trivial
  exact hrecent.call (.subtype ⟨1⟩ "Cover") (by decide) trivial

theorem Schema.coverage_plainHeir : Schema.coverage.PlainHeir ⟨3⟩ ⟨0⟩ := by
  have hcover : Schema.coverage.PlainHeir ⟨3⟩ ⟨1⟩ := Schema.registerSubtype_plainHeir _ _ "Cover"
  exact hcover.trans (.child rfl ⟨rfl, rfl, rfl⟩ rfl)

/-- What has comments that say something. -/
def Scope.commented : Scope :=
  (Step.run [] (.having "comments" .inner [.restrict "text" true [.isNull]]) .root).1

/-- The same, by editors, whom nothing has. -/
def Scope.commentedOn : Scope :=
  (Step.run [] (.having "editors" .left []) .commented).1

/-- Covers are joined by the key of posts. -/
theorem Schema.PlainHeir.compile_transparent_coverage :
    (∃ q, Schema.coverage.compile {} ⟨3⟩ .commented none = .ok q
        ∧ Schema.coverage.compile {} ⟨0⟩ .commented none = .ok q
        ∧ q.joins = ["INNER JOIN \"comments\" ON \"comments\".post_id = \"posts\".id"])
      ∧ ∃ f g, Schema.coverage.compile {} ⟨3⟩ .commentedOn none = .error f
        ∧ Schema.coverage.compile {} ⟨0⟩ .commentedOn none = .error g
        ∧ SameFault .coverage ⟨3⟩ ⟨0⟩ Scope.commentedOn.sites f g := by
  have hlinked : Schema.coverage.Linked := by
    have hmodels : ∀ m ∈ Schema.coverage.models.toList, ∀ a ∈ m.associations, a.target = ⟨2⟩ := by
      decide
    intro m hm a ha
    rw [hmodels m (Array.mem_toList_iff.mpr hm) a ha]
    rfl
  have hcommented : Scope.commented.Built := .call [] _ .root
  have hcommentedOn : Scope.commentedOn.Built := .call [] _ hcommented
  have hsame := Schema.PlainHeir.compile_transparent coverage_plainHeir coverage_recorded hlinked
    hcommented none {}
  have hfails := Schema.PlainHeir.compile_transparent coverage_plainHeir coverage_recorded hlinked
    hcommentedOn none {}
  constructor
  · have hcompile : Schema.coverage.compile {} ⟨0⟩ .commented none = .ok _ := rfl
    rcases hsame with ⟨q, hcover, hpost⟩ | ⟨_, g, -, hpost, -⟩
    · refine ⟨q, hcover, hpost, ?_⟩
      cases hcompile.symm.trans hpost
      decide +kernel
    · cases hcompile.symm.trans hpost
  · have hcompile : Schema.coverage.compile {} ⟨0⟩ .commentedOn none = .error _ := rfl
    rcases hfails with ⟨q, -, hpost⟩ | hfails
    · cases hcompile.symm.trans hpost
    · exact hfails

end Criteria
