import Mathlib.Data.List.Induction
import Criteria.Proofs.Plan.Names
import Criteria.Proofs.Plan.Walk

/-!
# The letters of labels

Labels are made of the names of tables and associations, of underscores
and digits. So whatever holds of all characters of these holds of all
characters of every label that a walk brings in.
-/

namespace Criteria

open Sql (JoinKind)

/-- All characters of the text are of one kind. -/
def Spelled (p : Char → Prop) (text : String) : Prop := ∀ c ∈ text.toList, p c

theorem Spelled.append {p : Char → Prop} {x y : String} (hx : Spelled p x) (hy : Spelled p y) :
    Spelled p (x ++ y) := by
  intro c hc
  rw [String.toList_append] at hc
  exact (List.mem_append.mp hc).elim (hx c) (hy c)

theorem spelled_ne_iff {c : Char} {text : String} : Spelled (· ≠ c) text ↔ c ∉ text.toList :=
  ⟨fun h hc => h c hc rfl, fun h _ hd heq => h (heq ▸ hd)⟩

/-- Characters that the names of tables and associations consist of, and
with which labels are made of them. -/
structure Schema.SpelledWith (s : Schema) (p : Char → Prop) : Prop where
  table : ∀ id table, s.table id = .ok table → Spelled p table
  association : ∀ m ∈ s.models, ∀ a ∈ m.associations, Spelled p a.name
  underscore : p '_'
  digit : ∀ c : Char, c.isDigit = true → p c

variable {p : Char → Prop} {s : Schema} {subject : Place} {d d' : Draft}

/-- A character that no name has is in no label, if labels are not made
with it. -/
theorem Schema.spelledWith_ne {c : Char} (hunderscore : '_' ≠ c) (hdigit : c.isDigit = false)
    (htable : ∀ id table, s.table id = .ok table → c ∉ table.toList)
    (hassociation : ∀ m ∈ s.models, ∀ a ∈ m.associations, c ∉ a.name.toList) :
    s.SpelledWith (· ≠ c) where
  table id table h := spelled_ne_iff.mpr (htable id table h)
  association m hm a ha := spelled_ne_iff.mpr (hassociation m hm a ha)
  underscore := hunderscore
  digit d hd heq := by
    rw [heq, hdigit] at hd
    cases hd

theorem Names.choose_spelled (hs : s.SpelledWith p) {ns : Names}
    {table association owner : String} {forced : Bool} (htable : Spelled p table)
    (hassociation : Spelled p association) (howner : Spelled p owner) :
    Spelled p (ns.choose table association owner forced) := by
  have hunderscore : Spelled p "_" := by
    intro c hc
    obtain rfl : c = '_' := by simpa using hc
    exact hs.underscore
  have hnumeral (n : Nat) : Spelled p (Text.numeral n) := by
    intro c hc
    rw [Text.toList_numeral] at hc
    exact hs.digit c (Text.isDigit_of_mem_digits hc)
  have hbase : Spelled p (association ++ "_" ++ owner) :=
    (hassociation.append hunderscore).append howner
  unfold Names.choose Names.fresh
  split
  · split
    · obtain ⟨k, -, heq, -, -⟩ := Names.firstFree_spec ns.used (association ++ "_" ++ owner) 2
      rw [heq, Names.numbered]
      exact (hbase.append hunderscore).append (hnumeral k)
    · exact hbase
  · exact htable

/-- All labels of a draft. -/
def Draft.SpelledLabels (p : Char → Prop) (subject : Place) (d : Draft) : Prop :=
  ∀ label ∈ subject.label :: d.joins.map (·.label), Spelled p label

theorem Place.reach_label {path : List String} {here : Place}
    (h : subject.reach s d path = some here) :
    here.label ∈ subject.label :: d.joins.map (·.label) := by
  cases path using List.reverseRecOn with
  | nil =>
      cases h
      exact List.mem_cons_self ..
  | append_singleton path association =>
      obtain ⟨_, _, e, -, -, he, rfl⟩ := Place.reach_snoc.mp h
      exact List.mem_cons_of_mem _ (List.mem_map_of_mem (Draft.entry?_some he).1)

theorem Draft.SpelledLabels.enter {path : List String} {owner target : Place}
    {association : String} {kind : JoinKind} (h : d.SpelledLabels p subject)
    (hs : s.SpelledWith p) (hreach : subject.reach s d path = some owner)
    (henter : (owner.enter s association kind).run d = .ok (target, d')) :
    d'.SpelledLabels p subject := by
  obtain ⟨a, ha, -, ⟨e, -, -, rfl⟩ | ⟨-, e, names, hnew, -, rfl⟩⟩ := Place.enter_ok henter
  · exact h
  obtain ⟨_, targetEnd, -, ht, -, -, -, hlabel, -, -⟩ := Place.newEntry_ok hnew
  have howner : Spelled p owner.label := h _ (Place.reach_label hreach)
  have htable : Spelled p targetEnd.table := hs.table _ _ (Schema.endpoint_ok ht).1
  obtain ⟨m, hm, ham⟩ := Schema.association_mem ha
  have hnewLabel : Spelled p e.label :=
    hlabel ▸ Names.choose_spelled hs htable (hs.association m hm a ham) howner
  intro label hmem
  rw [Draft.join, List.map_append, ← List.cons_append, List.mem_append, List.map_singleton,
    List.mem_singleton] at hmem
  rcases hmem with hmem | rfl
  · exact h label hmem
  · exact hnewLabel

theorem Walk.spelledLabels {sites : List Site} (hw : Walk s subject d sites d')
    (hs : s.SpelledWith p) (h : d.SpelledLabels p subject) : d'.SpelledLabels p subject := by
  induction hw with
  | nil => exact h
  | restriction _ _ _ ih => exact ih h
  | visit hreach henter _ ih => exact ih (h.enter hs hreach henter)

/-- A statement starts with the table of its subject. -/
theorem Schema.SpelledWith.labels {id : ModelId} {table : String} {base : Option BaseCondition}
    {sites : List Site} (hs : s.SpelledWith p) (htable : s.table id = .ok table)
    (hw : Walk s ⟨id, table⟩ (.start table base) sites d) : d.SpelledLabels p ⟨id, table⟩ := by
  refine hw.spelledLabels hs fun label hmem => ?_
  obtain rfl := List.mem_singleton.mp hmem
  exact hs.table id _ htable

end Criteria
