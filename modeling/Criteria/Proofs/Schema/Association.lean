import Criteria.Proofs.Sql.Clauses
import Criteria.Schema.Association

/-!
# Joins and conditions of an association

An association is written in two ways, as joins from an owner and as a
condition for the key of one owner, and each of them chooses its columns
on its own. They mean the same for the rows of any tables
(`Association.scoping_agrees`).
-/

namespace Criteria

open Sql (ColumnAt Frame Hop JoinKind KeyCondition Row Tables Truth)

/-- What the condition for one owner says. -/
def Scoping.condition : Scoping → KeyCondition
  | .keyed column => .equals column
  | .through column table sourceColumn targetColumn =>
    .listed column ⟨table, targetColumn⟩ table ⟨table, sourceColumn⟩

theorem Scoping.condition_text (quote : Bool) (s : Scoping) :
    s.condition.text quote = s.text quote := by
  cases s <;> simp [text, condition, KeyCondition.text, ColumnAt.text, String.append_assoc]

namespace Association

/-- The column of the owner whose value is the key. -/
def keyColumn (a : Association) : String :=
  match a.kind with
  | .belongsTo => a.ownKey
  | .hasOne | .hasMany | .manyToMany _ => a.primaryKey

variable {V : Type} (same : V → V → Truth) (db : Tables V)

/-- The equations of the joins from a row of the owner hold for the row of
the target. -/
def Pairs (a : Association) (owner target : Endpoint) (w t : Row V) : Prop :=
  ∃ frame ∈ Hop.joinedAll same db (a.hops owner target) [(owner.label, w)],
    frame.lookup target.label = some t

variable {same db} {owner target : Endpoint} {w t : Row V}

/-- One join, of the target itself. -/
theorem pairs_direct {table label ownerLabel column key : String} (h : ownerLabel ≠ label) :
    (∃ frame ∈ Hop.joinedAll same db [⟨table, label, ⟨label, column⟩, ⟨ownerLabel, key⟩⟩]
        [(ownerLabel, w)], frame.lookup label = some t) ↔
      t ∈ db table ∧ same (t column) (w key) = .yes := by
  -- The label of the target does not hide that of the owner.
  have howner (row : Row V) :
      ColumnAt.value? [(label, row), (ownerLabel, w)] ⟨ownerLabel, key⟩ = some (w key) := by
    rw [ColumnAt.value?_farther h.symm, ColumnAt.value?_here]
  constructor
  · rintro ⟨frame, hframe, hfound⟩
    obtain ⟨row, hrow, rfl, hequation⟩ := Hop.mem_joined.mp (Hop.mem_joinedAll_singleton.mp hframe)
    rw [List.lookup_cons_self] at hfound
    cases hfound
    rw [ColumnAt.value?_here, howner, Sql.compared_some] at hequation
    exact ⟨hrow, hequation⟩
  · rintro ⟨hrow, hequation⟩
    refine ⟨[(label, t), (ownerLabel, w)], ?_, List.lookup_cons_self⟩
    refine Hop.mem_joinedAll_singleton.mpr (Hop.mem_joined.mpr ⟨t, hrow, rfl, ?_⟩)
    rwa [ColumnAt.value?_here, howner, Sql.compared_some]

/-- Two joins, of a table between and then of the target. -/
theorem pairs_through {table label between middle ownerLabel source column key selected : String}
    (howner : ownerLabel ≠ middle) (htarget : middle ≠ label) :
    (∃ frame ∈ Hop.joinedAll same db
        [⟨between, middle, ⟨middle, source⟩, ⟨ownerLabel, key⟩⟩,
          ⟨table, label, ⟨label, column⟩, ⟨middle, selected⟩⟩] [(ownerLabel, w)],
        frame.lookup label = some t) ↔
      t ∈ db table ∧ ∃ row ∈ db between,
        same (row source) (w key) = .yes ∧ same (t column) (row selected) = .yes := by
  have hkey (row : Row V) :
      ColumnAt.value? [(middle, row), (ownerLabel, w)] ⟨ownerLabel, key⟩ = some (w key) := by
    rw [ColumnAt.value?_farther howner.symm, ColumnAt.value?_here]
  have hselected (row row' : Row V) : ColumnAt.value?
      [(label, row'), (middle, row), (ownerLabel, w)] ⟨middle, selected⟩
        = some (row selected) := by
    rw [ColumnAt.value?_farther htarget.symm, ColumnAt.value?_here]
  constructor
  · rintro ⟨frame, hframe, hfound⟩
    obtain ⟨_, hmiddle, hframe⟩ := Hop.mem_joinedAll_cons.mp hframe
    obtain ⟨row, hrow, rfl, hsource⟩ := Hop.mem_joined.mp hmiddle
    obtain ⟨row', hrow', rfl, htarget⟩ := Hop.mem_joined.mp (Hop.mem_joinedAll_singleton.mp hframe)
    rw [List.lookup_cons_self] at hfound
    cases hfound
    rw [ColumnAt.value?_here, hkey, Sql.compared_some] at hsource
    rw [ColumnAt.value?_here, hselected, Sql.compared_some] at htarget
    exact ⟨hrow', row, hrow, hsource, htarget⟩
  · rintro ⟨hrow', row, hrow, hsource, htarget⟩
    refine ⟨[(label, t), (middle, row), (ownerLabel, w)], ?_, List.lookup_cons_self⟩
    refine Hop.mem_joinedAll_cons.mpr ⟨[(middle, row), (ownerLabel, w)], ?_, ?_⟩
    · refine Hop.mem_joined.mpr ⟨row, hrow, rfl, ?_⟩
      rwa [ColumnAt.value?_here, hkey, Sql.compared_some]
    · refine Hop.mem_joinedAll_singleton.mpr (Hop.mem_joined.mpr ⟨t, hrow', rfl, ?_⟩)
      rwa [ColumnAt.value?_here, hselected, Sql.compared_some]

/-- Both ways go by the same columns, either directly or through a table
between. -/
theorem direct_or_through (a : Association) (owner target : Endpoint) :
    (∃ column, a.hops owner target = [⟨target.table, target.label, ⟨target.label, column⟩,
          ⟨owner.label, a.keyColumn⟩⟩]
        ∧ ∀ label, (a.scoping owner (target.under label)).condition = .equals ⟨label, column⟩) ∨
      ∃ between middle source selected, a.hops owner target =
          [⟨between, middle, ⟨middle, source⟩, ⟨owner.label, a.keyColumn⟩⟩,
            ⟨target.table, target.label, ⟨target.label, a.primaryKey⟩, ⟨middle, selected⟩⟩]
        ∧ ∀ label, (a.scoping owner (target.under label)).condition =
            .listed ⟨label, a.primaryKey⟩ ⟨between, selected⟩ between ⟨between, source⟩ := by
  unfold hops scoping keyColumn
  cases a.kind with
  | belongsTo => exact .inl ⟨_, rfl, fun _ => rfl⟩
  | hasOne => exact .inl ⟨_, rfl, fun _ => rfl⟩
  | hasMany => exact .inl ⟨_, rfl, fun _ => rfl⟩
  | manyToMany through => exact .inr ⟨_, _, _, _, rfl, fun _ => rfl⟩

/-- The joins pair a row of the owner with the rows of the target that the
condition holds for when the key of that row is bound. -/
theorem pairs_iff (a : Association)
    (hdistinct : (owner.label :: (a.hops owner target).map (·.label)).Nodup) (label : String) :
    a.Pairs same db owner target w t ↔ t ∈ db target.table ∧
      (a.scoping owner (target.under label)).condition.truth same db (w a.keyColumn)
        [(label, t)] = .yes := by
  have hvalue (column : String) : ColumnAt.value? [(label, t)] ⟨label, column⟩ = some (t column) :=
    ColumnAt.value?_here ..
  rcases a.direct_or_through owner target with
    ⟨column, hhops, hcondition⟩ | ⟨between, middle, source, selected, hhops, hcondition⟩
  · rw [hhops] at hdistinct
    have hlabels : owner.label ≠ target.label := by simpa using hdistinct
    rw [Pairs, hhops, pairs_direct hlabels, hcondition, KeyCondition.truth, hvalue,
      Sql.compared_some]
  · rw [hhops] at hdistinct
    have hlabels : owner.label ≠ middle ∧ middle ≠ target.label := by
      simp only [List.map_cons, List.map_nil, List.nodup_cons, List.mem_cons, not_or] at hdistinct
      exact ⟨hdistinct.1.1, hdistinct.2.1.1⟩
    rw [Pairs, hhops, pairs_through hlabels.1 hlabels.2, hcondition,
      KeyCondition.truth_listed_eq_yes, hvalue]
    simp only [ColumnAt.value?_here, Sql.compared_some]

theorem hops_ne_nil (a : Association) (owner target : Endpoint) : a.hops owner target ≠ [] := by
  rcases a.direct_or_through owner target with ⟨_, h, _⟩ | ⟨_, _, _, _, h, _⟩ <;> simp [h]

/-- The condition needs no names beyond those of the joins but that of the
target. -/
theorem condition_legible {quote : Bool} (a : Association)
    (h : ∀ hop ∈ a.hops owner target, hop.Legible quote) {label : String}
    (hlabel : Sql.Legible quote label) :
    (a.scoping owner (target.under label)).condition.Legible quote := by
  rcases a.direct_or_through owner target with
    ⟨column, hhops, hcondition⟩ | ⟨between, middle, source, selected, hhops, hcondition⟩
  · rw [hhops] at h
    rw [hcondition]
    exact ⟨hlabel, (h _ (List.mem_singleton_self _)).left.2⟩
  · rw [hhops] at h
    have hfirst := h _ List.mem_cons_self
    have hsecond := h _ (List.mem_cons_of_mem _ List.mem_cons_self)
    rw [hcondition]
    exact ⟨⟨hlabel, hsecond.left.2⟩, ⟨hfirst.table, hsecond.right.2⟩, hfirst.table,
      ⟨hfirst.table, hfirst.left.2⟩⟩

/-- Posts that are related to posts, through a table of links. -/
def related : Association :=
  { name := "related", kind := .manyToMany ⟨"links", none, some "related_id"⟩, target := ⟨0⟩ }

/-- The first post and the second, linked. -/
def linkedPosts : Tables Nat
  | "posts" => [fun _ => 1, fun _ => 2]
  | "links" => [fun column => if column = "related_id" then 2 else 1]
  | _ => []

end Association

end Criteria
