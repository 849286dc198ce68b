import Criteria.Plan.Draft

/-!
# Joins of a plan

Following an association from one place of a statement to another. An
association joined once from a place is not joined again: whoever comes
the same way meets the table that is there already, under the kind of
join of the first who came.
-/

namespace Criteria

open Sql (JoinKind)

/-- An error met while an association was looked up. -/
def whileHaving {α : Type} (result : Except Failure α) : Except Failure α :=
  result.mapError (·.map (·.withOperation "having"))

namespace Place

/-- The entry of an association that is not joined yet, and the names in
use afterwards. The table between two types takes a name after that of
the target, and the target may not keep its own name if that of the table
between is in use. -/
def newEntry (s : Schema) (names : Names) (owner : Place) (a : Association) (kind : JoinKind) :
    Except Failure (JoinEntry × Names) := do
  let table ← s.table a.target
  let forced := a.joinTable?.any fun j => names.contains j.table
  let (label, names) := names.claim table a.name owner.label forced
  let ownerEnd ← s.endpoint owner.model
  let targetEnd ← s.endpoint a.target
  let target := targetEnd.under label
  let entry : JoinEntry :=
    { owner := owner.label
      association := a.name
      kind, label
      hops := a.hops (ownerEnd.under owner.label) target }
  match a.joinTable? with
  | none => return (entry, names)
  | some between => return (entry, names.insert (between.labelFor target))

/-- The place at the other end of an association, which is joined if it
is not yet. -/
def enter (s : Schema) (owner : Place) (association : String) (kind : JoinKind) :
    Planner Place := do
  let a ← whileHaving (s.association owner.model association)
  let draft ← get
  match draft.entry? owner.label a.name with
  | some entry => return { model := a.target, label := entry.label }
  | none =>
    let (entry, names) ← newEntry s draft.names owner a kind
    set (draft.join entry names)
    return { model := a.target, label := entry.label }

/-- The place at the end of a path of associations. -/
def follow (s : Schema) (here : Place) : List String → Planner Place
  | [] => return here
  | association :: rest => do
    let next ← here.enter s association .inner
    next.follow s rest

end Place

end Criteria
