import Criteria.Plan

/-!
# Properties that compose

What holds of the steps of the planner and is kept when steps are put
together holds of all that is planned for order and grouping, however long
the paths and the lists are (`Planner.Compositional`). How runs are
compared, or what they can fail with, is up to the property.
-/

namespace Criteria

open Sql (JoinKind)

namespace Planner

/-- The property holds of each step that a column takes, and of steps that
follow each other if it holds of each. -/
structure Compositional (s : Schema) (P : ∀ {α : Type}, Planner α → Prop) : Prop where
  pure : ∀ {α : Type} (a : α), P (Pure.pure a : Planner α)
  bind : ∀ {α β : Type} {x : Planner α} {f : α → Planner β}, P x → (∀ a, P (f a)) → P (x >>= f)
  column : ∀ (here : Place) (column : String), P (liftM (here.column s column) : Planner String)
  enter : ∀ (owner : Place) (association : String) (kind : JoinKind),
    P (owner.enter s association kind)

namespace Compositional

variable {s : Schema} {P : ∀ {α : Type}, Planner α → Prop} (h : Compositional s P)
include h

theorem follow (here : Place) (associations : List String) : P (here.follow s associations) := by
  induction associations generalizing here with
  | nil => exact h.pure here
  | cons association rest ih => exact h.bind (h.enter here association .inner) ih

theorem columnRef (subject : Place) (column : ColumnRef) : P (column.plan s subject) := by
  cases column with
  | literal sql => exact h.pure sql
  | name column => exact h.column subject column
  | path associations column =>
      exact h.bind (h.follow subject associations) fun here => h.column here column

theorem columns (subject : Place) (columns : List ColumnRef) :
    P (ColumnRef.planAll s subject columns) := by
  induction columns with
  | nil => exact h.pure []
  | cons column rest ih =>
      refine h.bind (h.columnRef subject column) fun text => ?_
      exact h.bind ih fun others => h.pure (text :: others)

theorem order (subject : Place) (entries : List OrderEntry) :
    P (OrderEntry.planAll s subject entries) := by
  induction entries with
  | nil => exact h.pure []
  | cons entry rest ih =>
      refine h.bind (h.columnRef subject entry.column) fun column => ?_
      exact h.bind ih fun others => h.pure ((column, entry.direction) :: others)

end Compositional

end Planner

end Criteria
