import Criteria.Proofs.Sql.Logic
import Criteria.Sql.Join

/-!
# Rows of tables

What joins and conditions mean for the contents of tables. A statement
has rows in hand, each under the name that its table goes by (`Frame`). A
join tries every row of its table and keeps those for which its equation
holds (`Hop.joined`); a condition has a truth value in a frame
(`KeyCondition.truth`).

How values are compared is left open, as is what they are: nothing here
depends on it but that a row is taken only where the answer is yes.
-/

namespace Criteria.Sql

variable {V : Type}

/-! ## Frames -/

/-- The values of a row by its columns. -/
abbrev Row (V : Type) := String → V

abbrev Tables (V : Type) := String → List (Row V)

/-- The rows in hand under their names, the last one taken first. -/
abbrev Frame (V : Type) := List (String × Row V)

/-- The value of a column in a frame, if the name is known there. -/
def ColumnAt.value? (frame : Frame V) (c : ColumnAt) : Option V :=
  (frame.lookup c.label).map fun row => row c.column

@[simp] theorem ColumnAt.value?_here (frame : Frame V) (label : String) (row : Row V)
    (column : String) : value? ((label, row) :: frame) ⟨label, column⟩ = some (row column) := by
  simp [value?]

theorem ColumnAt.value?_farther {frame : Frame V} {label : String} {row : Row V} {c : ColumnAt}
    (h : label ≠ c.label) : c.value? ((label, row) :: frame) = c.value? frame := by
  have hother : (c.label == label) = false := by simpa using h.symm
  rw [value?, List.lookup_cons, hother, value?]

/-- What a comparison comes to where both sides are known. -/
def compared (same : V → V → Truth) : Option V → Option V → Truth
  | some x, some y => same x y
  | _, _ => .unknown

@[simp] theorem compared_some (same : V → V → Truth) (x y : V) :
    compared same (some x) (some y) = same x y := rfl

/-! ## Joins -/

section

variable (same : V → V → Truth) (db : Tables V)

/-- The frames that one more table makes of a frame. -/
def Hop.joined (h : Hop) (frame : Frame V) : List (Frame V) :=
  ((db h.table).map fun row => (h.label, row) :: frame).filter fun wider =>
    compared same (h.left.value? wider) (h.right.value? wider) = .yes

/-- The frames that several tables make of a frame, one after another. -/
def Hop.joinedAll : List Hop → Frame V → List (Frame V)
  | [], frame => [frame]
  | h :: rest, frame => (h.joined same db frame).flatMap (joinedAll rest)

end

variable {same : V → V → Truth} {db : Tables V}

theorem Hop.mem_joined {h : Hop} {frame wider : Frame V} : wider ∈ h.joined same db frame ↔
    ∃ row ∈ db h.table, wider = (h.label, row) :: frame
      ∧ compared same (h.left.value? wider) (h.right.value? wider) = .yes := by
  rw [joined, List.mem_filter, List.mem_map, decide_eq_true_eq]
  constructor
  · rintro ⟨⟨row, hrow, rfl⟩, hequation⟩
    exact ⟨row, hrow, rfl, hequation⟩
  · rintro ⟨row, hrow, rfl, hequation⟩
    exact ⟨⟨row, hrow, rfl⟩, hequation⟩

theorem Hop.mem_joinedAll_cons {h : Hop} {rest : List Hop} {frame wider : Frame V} :
    wider ∈ joinedAll same db (h :: rest) frame ↔
      ∃ middle ∈ h.joined same db frame, wider ∈ joinedAll same db rest middle :=
  List.mem_flatMap

theorem Hop.mem_joinedAll_singleton {h : Hop} {frame wider : Frame V} :
    wider ∈ joinedAll same db [h] frame ↔ wider ∈ h.joined same db frame := by
  simp [joinedAll]

/-! ## Conditions for a key -/

/-- A condition with one placeholder. A column is to equal it, or to be
among those that a table lists in the rows where another column equals
it. -/
inductive KeyCondition where
  | equals (column : ColumnAt)
  | listed (column selected : ColumnAt) (table : String) (keyed : ColumnAt)
deriving DecidableEq, Repr

/-- A value is in a list if it equals one member, and may be if that is
unknown of one. -/
def Truth.any (ts : List Truth) : Truth := ts.foldr Truth.or .no

theorem Truth.any_eq_yes {ts : List Truth} : Truth.any ts = .yes ↔ .yes ∈ ts := by
  induction ts with
  | nil => simp [any]
  | cons t rest ih =>
      rw [any, List.foldr_cons, ← any, List.mem_cons, ← ih]
      cases t <;> cases any rest <;> simp [Truth.or]

namespace KeyCondition

variable (same : V → V → Truth) (db : Tables V)

/-- The rows of a subquery come into hand before those outside it. -/
def truth (key : V) (frame : Frame V) : KeyCondition → Truth
  | .equals column => compared same (column.value? frame) (some key)
  | .listed column selected table keyed =>
    let inner := ((db table).map fun row => (table, row) :: frame).filter fun wider =>
      compared same (keyed.value? wider) (some key) = .yes
    Truth.any (inner.map fun wider => compared same (column.value? frame) (selected.value? wider))

end KeyCondition

theorem KeyCondition.truth_listed_eq_yes {key : V} {frame : Frame V}
    {column selected keyed : ColumnAt} {table : String} :
    (KeyCondition.listed column selected table keyed).truth same db key frame = .yes ↔
      ∃ row ∈ db table,
        compared same (keyed.value? ((table, row) :: frame)) (some key) = .yes ∧
        compared same (column.value? frame) (selected.value? ((table, row) :: frame)) = .yes := by
  rw [truth, Truth.any_eq_yes, List.mem_map]
  simp only [List.mem_filter, List.mem_map, decide_eq_true_eq]
  constructor
  · rintro ⟨wider, ⟨⟨row, hrow, rfl⟩, hkeyed⟩, hmember⟩
    exact ⟨row, hrow, hkeyed, hmember⟩
  · rintro ⟨row, hrow, hkeyed, hmember⟩
    exact ⟨_, ⟨⟨row, hrow, rfl⟩, hkeyed⟩, hmember⟩

end Criteria.Sql
