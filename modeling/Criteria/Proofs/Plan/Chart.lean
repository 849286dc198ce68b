import Mathlib.Data.List.Forall2
import Mathlib.Data.List.Induction
import Mathlib.Data.List.Nodup
import Criteria.Proofs.Plan.Names
import Criteria.Proofs.Plan.Walk

/-!
# Charts

What the joins of a draft have to do with the paths of its filter. The
planner sees labels only: it looks for an entry by the label of the owner
and the name of the association. A chart says that this is as good as
looking for the path. Its entries are the first visits along each path,
in order, and no label stands for two places, so a label tells the path
that leads to it (`Chart.reach_injective`) and with it the record type.

Every draft of a walk has a chart (`Chart.walk`); the one step that needs
work is a visit, where an old entry is found exactly if the path was
visited before.
-/

namespace Criteria

/-- The entry joins the association of the visit, from the place at the
end of its path. -/
def Visit.JoinedBy (s : Schema) (subject : Place) (d : Draft) (v : Visit) (e : JoinEntry) :
    Prop :=
  ∃ owner a ownerEnd targetEnd, subject.reach s d v.path = some owner
    ∧ s.association owner.model v.association = .ok a
    ∧ s.endpoint owner.model = .ok ownerEnd ∧ s.endpoint a.target = .ok targetEnd
    ∧ d.entry? owner.label v.association = some e ∧ e.kind = v.kind
    ∧ e.hops = a.hops (ownerEnd.under owner.label) (targetEnd.under e.label)

/-- Further joins leave an entry where it is. -/
theorem Visit.JoinedBy.mono {s : Schema} {subject : Place} {d d' : Draft} {v : Visit}
    {e : JoinEntry} (hd : d.joins <+: d'.joins) (h : v.JoinedBy s subject d e) :
    v.JoinedBy s subject d' e := by
  obtain ⟨owner, a, ownerEnd, targetEnd, hreach, ha, ho, ht, he, hrest⟩ := h
  exact ⟨owner, a, ownerEnd, targetEnd, Place.reach_mono hd hreach, ha, ho, ht,
    Draft.entry?_mono hd he, hrest⟩

structure Chart (s : Schema) (subject : Place) (visits : List Visit) (d : Draft) : Prop where
  /-- No two places go by one label, -/
  distinct : (subject.label :: d.joins.map (·.label)).Nodup
  /-- every label is known to be in use, -/
  inUse : ∀ label ∈ subject.label :: d.joins.map (·.label), label ∈ d.names.used
  /-- and the first visits are joined, each by an entry of its own. -/
  joined : List.Forall₂ (Visit.JoinedBy s subject d) (Visit.firsts visits) d.joins
  /-- A visit starts from the subject or from where an earlier one led. -/
  rooted : ∀ earlier v later, Visit.firsts visits = earlier ++ v :: later →
    v.path = [] ∨ v.path ∈ earlier.map Visit.target

/-! ## First visits -/

namespace Visit

theorem firsts_append (xs ys : List Visit) : firsts (xs ++ ys) = ys.foldl note (firsts xs) :=
  List.foldl_append ..

theorem firsts_snoc_of_mem {visits : List Visit} {v : Visit}
    (h : v.target ∈ (firsts visits).map target) : firsts (visits ++ [v]) = firsts visits := by
  rw [firsts_append, List.foldl_cons, List.foldl_nil, note, if_pos h]

theorem firsts_snoc_of_not_mem {visits : List Visit} {v : Visit}
    (h : v.target ∉ (firsts visits).map target) :
    firsts (visits ++ [v]) = firsts visits ++ [v] := by
  rw [firsts_append, List.foldl_cons, List.foldl_nil, note, if_neg h]

theorem targets_nodup (visits : List Visit) : ((firsts visits).map target).Nodup := by
  induction visits using List.reverseRecOn with
  | nil => exact List.nodup_nil
  | append_singleton visits v ih =>
      by_cases hv : v.target ∈ (firsts visits).map target
      · rwa [firsts_snoc_of_mem hv]
      · rw [firsts_snoc_of_not_mem hv, List.map_append]
        exact ih.append (List.nodup_singleton _) (List.disjoint_singleton.mpr hv)

theorem mem_targets {visits : List Visit} {path : List String} :
    path ∈ (firsts visits).map target ↔ path ∈ visits.map target := by
  induction visits using List.reverseRecOn with
  | nil => rfl
  | append_singleton visits v ih =>
      rw [List.map_append, List.mem_append, List.map_singleton, List.mem_singleton, ← ih]
      by_cases hv : v.target ∈ (firsts visits).map target
      · rw [firsts_snoc_of_mem hv]
        exact ⟨.inl, fun h => h.elim id fun heq => heq ▸ hv⟩
      · rw [firsts_snoc_of_not_mem hv, List.map_append, List.mem_append, List.map_singleton,
          List.mem_singleton]

/-- One visit along each path that is visited, namely the earliest, in
the order of the visits. -/
structure Firsts (visits vs : List Visit) : Prop where
  sublist : vs.Sublist visits
  distinct : (vs.map target).Nodup
  covering : ∀ v ∈ visits, v.target ∈ vs.map target
  earliest : ∀ v ∈ vs, ∃ earlier later, visits = earlier ++ v :: later
    ∧ v.target ∉ earlier.map target

theorem firsts_sublist (visits : List Visit) : (firsts visits).Sublist visits := by
  induction visits using List.reverseRecOn with
  | nil => exact .slnil
  | append_singleton visits v ih =>
      by_cases hv : v.target ∈ (firsts visits).map target
      · rw [firsts_snoc_of_mem hv]
        exact ih.trans (List.sublist_append_left ..)
      · rw [firsts_snoc_of_not_mem hv]
        exact ih.append (.refl _)

theorem firsts_earliest {visits : List Visit} {v : Visit} (h : v ∈ firsts visits) :
    ∃ earlier later, visits = earlier ++ v :: later ∧ v.target ∉ earlier.map target := by
  induction visits using List.reverseRecOn with
  | nil => cases h
  | append_singleton visits w ih =>
      have hold (hmem : v ∈ firsts visits) : ∃ earlier later,
          visits ++ [w] = earlier ++ v :: later ∧ v.target ∉ earlier.map target := by
        obtain ⟨earlier, later, rfl, hnot⟩ := ih hmem
        exact ⟨earlier, later ++ [w], by simp, hnot⟩
      by_cases hw : w.target ∈ (firsts visits).map target
      · rw [firsts_snoc_of_mem hw] at h
        exact hold h
      · rw [firsts_snoc_of_not_mem hw] at h
        rcases List.mem_append.mp h with h | h
        · exact hold h
        · obtain rfl := List.mem_singleton.mp h
          exact ⟨visits, [], rfl, fun hmem => hw (mem_targets.mpr hmem)⟩

theorem firsts_spec (visits : List Visit) : Firsts visits (firsts visits) where
  sublist := firsts_sublist visits
  distinct := targets_nodup visits
  covering := fun _ hv => mem_targets.mpr (List.mem_map_of_mem hv)
  earliest := fun _ => firsts_earliest

end Visit

/-- Where an element stands in a list that was extended by one. -/
theorem append_cons_eq_snoc {α : Type} {xs ys zs : List α} {x y : α}
    (h : xs ++ [x] = ys ++ y :: zs) :
    (ys = xs ∧ y = x ∧ zs = []) ∨ ∃ zs', xs = ys ++ y :: zs' ∧ zs = zs' ++ [x] := by
  cases zs using List.reverseRecOn with
  | nil =>
      obtain ⟨rfl, hlast⟩ := List.append_inj' h rfl
      exact .inl ⟨rfl, (List.singleton_inj.mp hlast).symm, rfl⟩
  | append_singleton zs z =>
      rw [← List.cons_append, ← List.append_assoc] at h
      obtain ⟨rfl, hlast⟩ := List.append_inj' h rfl
      exact .inr ⟨zs, rfl, by rw [List.singleton_inj.mp hlast]⟩

theorem forall₂_mem_left {α β : Type} {R : α → β → Prop} {xs : List α} {ys : List β}
    (h : List.Forall₂ R xs ys) {x : α} (hx : x ∈ xs) : ∃ y ∈ ys, R x y := by
  induction h with
  | nil => cases hx
  | cons hr _ ih =>
      rcases List.mem_cons.mp hx with rfl | hx
      · exact ⟨_, List.mem_cons_self .., hr⟩
      · obtain ⟨y, hy, hr⟩ := ih hx
        exact ⟨y, List.mem_cons_of_mem _ hy, hr⟩

theorem forall₂_mem_right {α β : Type} {R : α → β → Prop} {xs : List α} {ys : List β}
    (h : List.Forall₂ R xs ys) {y : β} (hy : y ∈ ys) : ∃ x ∈ xs, R x y :=
  forall₂_mem_left h.flip hy

theorem forall₂_split_right {α β : Type} {R : α → β → Prop} {xs : List α} {ys zs : List β}
    {y : β} (h : List.Forall₂ R xs (ys ++ y :: zs)) :
    ∃ us x vs, xs = us ++ x :: vs ∧ List.Forall₂ R us ys ∧ R x y := by
  induction ys generalizing xs with
  | nil =>
      cases h with
      | @cons x _ vs _ hr _ => exact ⟨[], x, vs, rfl, .nil, hr⟩
  | cons z ys ih =>
      cases h with
      | @cons u _ _ _ hr hrest =>
          obtain ⟨us, x, vs, rfl, hus, hx⟩ := ih hrest
          exact ⟨u :: us, x, vs, rfl, .cons hr hus, hx⟩

/-! ## Labels and paths -/

namespace Chart

variable {s : Schema} {subject : Place} {visits : List Visit} {d d' : Draft}

/-- A draft with its subject alone. -/
theorem start (s : Schema) (id : ModelId) (table : String) (base : Option BaseCondition) :
    Chart s ⟨id, table⟩ [] (.start table base) where
  distinct := List.nodup_singleton table
  inUse := fun _ h => h
  joined := .nil
  rooted := fun _ _ _ h => by simp [Visit.firsts] at h

theorem entry_eq_of_label (h : Chart s subject visits d) {e f : JoinEntry}
    (he : e ∈ d.joins) (hf : f ∈ d.joins) (hlabel : e.label = f.label) : e = f :=
  List.inj_on_of_nodup_map (List.nodup_cons.mp h.distinct).2 he hf hlabel

theorem label_ne_subject (h : Chart s subject visits d) {e : JoinEntry} (he : e ∈ d.joins) :
    e.label ≠ subject.label := fun heq =>
  (List.nodup_cons.mp h.distinct).1 (heq ▸ List.mem_map_of_mem he)

/-- A label tells the path. The induction goes backwards over both paths:
the label at the end belongs to one entry, which tells the last
association and the label of its owner. -/
theorem reach_injective (h : Chart s subject visits d) {p q : List String} {x y : Place}
    (hp : subject.reach s d p = some x) (hq : subject.reach s d q = some y)
    (hlabel : x.label = y.label) : p = q := by
  induction p using List.reverseRecOn generalizing q x y with
  | nil =>
      cases hp
      cases q using List.reverseRecOn with
      | nil => rfl
      | append_singleton q b =>
          obtain ⟨_, _, f, -, -, hf, rfl⟩ := Place.reach_snoc.mp hq
          exact absurd hlabel.symm (h.label_ne_subject (Draft.entry?_some hf).1)
  | append_singleton p a ih =>
      obtain ⟨owner, _, e, howner, -, he, rfl⟩ := Place.reach_snoc.mp hp
      obtain ⟨hemem, heowner, heassoc⟩ := Draft.entry?_some he
      cases q using List.reverseRecOn with
      | nil =>
          cases hq
          exact absurd hlabel (h.label_ne_subject hemem)
      | append_singleton q b =>
          obtain ⟨owner', _, f, howner', -, hf, rfl⟩ := Place.reach_snoc.mp hq
          obtain ⟨hfmem, hfowner, hfassoc⟩ := Draft.entry?_some hf
          obtain rfl := h.entry_eq_of_label hemem hfmem hlabel
          rw [ih howner howner' (heowner.symm.trans hfowner), ← heassoc, hfassoc]

/-- An entry that the planner finds was made by a visit along the very
same path. -/
theorem target_mem_firsts (h : Chart s subject visits d) {path : List String} {owner : Place}
    {association : String} {e : JoinEntry} (hreach : subject.reach s d path = some owner)
    (he : d.entry? owner.label association = some e) :
    path ++ [association] ∈ (Visit.firsts visits).map Visit.target := by
  obtain ⟨hmem, heowner, heassoc⟩ := Draft.entry?_some he
  obtain ⟨v, hv, owner', _, _, _, hreach', -, -, -, hfound, -⟩ :=
    forall₂_mem_right h.joined hmem
  obtain ⟨-, hown, hassoc⟩ := Draft.entry?_some hfound
  have hpath := h.reach_injective hreach hreach' (heowner.symm.trans hown)
  refine List.mem_map.mpr ⟨v, hv, ?_⟩
  rw [Visit.target, ← hpath, ← hassoc, heassoc]

/-- The planner finds an entry wherever the path was visited before. -/
theorem target_not_mem_firsts (h : Chart s subject visits d) {path : List String}
    {owner : Place} {association : String} (hreach : subject.reach s d path = some owner)
    (he : d.entry? owner.label association = none) :
    path ++ [association] ∉ (Visit.firsts visits).map Visit.target := by
  intro hmem
  obtain ⟨v, hv, htarget⟩ := List.mem_map.mp hmem
  obtain ⟨hpath, hassoc⟩ := List.append_inj' htarget rfl
  obtain ⟨e, -, owner', _, _, _, hreach', -, -, -, hfound, -⟩ := forall₂_mem_left h.joined hv
  rw [hpath, hreach] at hreach'
  cases hreach'
  rw [List.singleton_inj.mp hassoc, he] at hfound
  cases hfound

/-- What is reached was visited. -/
theorem path_mem_firsts (h : Chart s subject visits d) {path : List String} {here : Place}
    (hreach : subject.reach s d path = some here) :
    path = [] ∨ path ∈ (Visit.firsts visits).map Visit.target := by
  cases path using List.reverseRecOn with
  | nil => exact .inl rfl
  | append_singleton path association =>
      obtain ⟨owner, _, e, howner, -, he, -⟩ := Place.reach_snoc.mp hreach
      exact .inr (h.target_mem_firsts howner he)

/-! ## Walks keep the chart -/

theorem bind (h : Chart s subject visits d) (values : List Value) :
    Chart s subject visits (d.bind values) := by
  have hd : d.joins <+: (d.bind values).joins := List.prefix_rfl
  exact ⟨h.distinct, h.inUse, h.joined.imp fun _ _ => Visit.JoinedBy.mono hd, h.rooted⟩

theorem enter (h : Chart s subject visits d) {v : Visit} {owner target : Place}
    (hreach : subject.reach s d v.path = some owner)
    (henter : (owner.enter s v.association v.kind).run d = .ok (target, d')) :
    Chart s subject (visits ++ [v]) d' := by
  have hprefix := Place.enter_joins henter
  obtain ⟨a, ha, hname, ⟨e, he, rfl, rfl⟩ | ⟨hnone, e, names, hnew, rfl, rfl⟩⟩ :=
    Place.enter_ok henter
  · have hsame := Visit.firsts_snoc_of_mem (h.target_mem_firsts hreach he)
    exact ⟨h.distinct, h.inUse, hsame ▸ h.joined, hsame ▸ h.rooted⟩
  · obtain ⟨ownerEnd, targetEnd, ho, ht, heo, hea, hek, hlabel, hhops, hnames⟩ :=
      Place.newEntry_ok hnew
    have hfresh : e.label ∉ d.names.used := by
      rw [hlabel]
      exact Names.choose_fresh _ _ _ _ _
    have hnew := Visit.firsts_snoc_of_not_mem (h.target_not_mem_firsts hreach hnone)
    refine ⟨?_, ?_, ?_, ?_⟩
    · rw [Draft.join, List.map_append, ← List.cons_append]
      refine h.distinct.append (List.nodup_singleton _) ?_
      rw [List.map_singleton, List.disjoint_singleton]
      exact fun hmem => hfresh (h.inUse _ hmem)
    · intro label hmem
      rw [Draft.join] at hmem ⊢
      rw [List.map_append, ← List.cons_append, List.mem_append, List.map_singleton,
        List.mem_singleton] at hmem
      rw [hnames, List.mem_append]
      rcases hmem with hmem | rfl
      · exact .inl (h.inUse _ hmem)
      · exact .inr (List.mem_cons_self ..)
    · rw [hnew]
      have hfound := Draft.entry?_join (e := e) (by rw [heo, hea, hname]; exact hnone) names
      rw [heo, hea, hname] at hfound
      refine List.rel_append (h.joined.imp fun _ _ => Visit.JoinedBy.mono hprefix) (.cons ?_ .nil)
      exact ⟨owner, a, ownerEnd, targetEnd, Place.reach_mono hprefix hreach, ha, ho, ht, hfound,
        hek, hhops⟩
    · intro earlier w later hsplit
      rcases append_cons_eq_snoc (hnew.symm.trans hsplit) with ⟨rfl, rfl, -⟩ | ⟨later', hold, -⟩
      · exact h.path_mem_firsts hreach
      · exact h.rooted _ _ _ hold

theorem walk {sites : List Site} (h : Chart s subject visits d)
    (hw : Walk s subject d sites d') :
    Chart s subject (visits ++ sites.filterMap Site.visit?) d' := by
  induction hw generalizing visits with
  | nil => simpa using h
  | restriction _ _ _ ih => exact ih (h.bind _)
  | @visit _ _ _ v _ _ _ hreach henter _ ih =>
      have := ih (h.enter hreach henter)
      rwa [List.append_assoc] at this

end Chart

end Criteria
