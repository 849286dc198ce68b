import Criteria.Filter.Clauses
import Criteria.Filter.Tree

/-!
# Scopes

A scope collects what the calls of a filter declare. The root scope takes
conditions and structural clauses; a scope inside a group or a join takes
conditions only and refuses the clauses, so that none of them is lost
when it closes. A nested scope is filled by a body on its own and becomes
one child of the outer scope when the body succeeds; when it fails the
outer scope is what it was.
-/

namespace Criteria

open Sql (Connective JoinKind)

inductive ScopeKind where
  | root
  | join
  | group
deriving DecidableEq, Repr

def ScopeKind.describe : ScopeKind → String
  | .root => "the top-level filter"
  | .join => "a having block"
  | .group => "an all_of/any_of block"

structure Scope where
  kind : ScopeKind
  group : Group
  clauses : Clauses := {}

/-- The scope that a call leaves behind, and whether it succeeded. -/
abbrev Outcome := Scope × Except Failure Unit

/-- What fills a nested scope. It may do anything with the scope that it
is given, look at it, drop the errors of its own calls, and stop half
way. -/
abbrev Body := Scope → Outcome

/-- A computation on a scope in place. What it has changed when it fails
stays changed. -/
abbrev Edit := ExceptT Failure (StateM Scope)

instance : MonadLift (Except Failure) Edit := ⟨fun result => ExceptT.mk (pure result)⟩

/-- The scope after an edit, and what the edit came to. -/
def Edit.on {α : Type} (edit : Edit α) (s : Scope) : Scope × Except Failure α :=
  (edit.run.run s).swap

namespace Scope

def root : Scope := { kind := .root, group := .conjunction }

/-- The scope that the body of a group starts with. -/
def inGroup (connective : Connective) (negated : Bool) : Scope :=
  { kind := .group, group := { connective, negated } }

/-- The scope that the body of a join starts with. -/
def inJoin : Scope := { kind := .join, group := .conjunction }

def isEmpty (s : Scope) : Bool := s.group.isEmpty && s.clauses.isEmpty

def add (s : Scope) (node : Node) : Scope := { s with group := s.group.add node }

/-! ## Conditions -/

def restrict (s : Scope) (r : Restriction) : Scope := s.add (.restriction r)

/-- A group of what the body declares. -/
def groupOf (s : Scope) (connective : Connective) (negated : Bool) (body : Body) : Outcome :=
  match body (inGroup connective negated) with
  | (inner, .ok ()) => (s.add (.group inner.group), .ok ())
  | (_, .error f) => (s, .error f)

/-- A join over an association, on what the body declares. -/
def having (s : Scope) (association : String) (kind : JoinKind) (body : Body) : Outcome :=
  match body inJoin with
  | (inner, .ok ()) => (s.add (.join association kind inner.group), .ok ())
  | (_, .error f) => (s, .error f)

/-! ## Structural clauses -/

/-- Only a root scope has clauses to change. -/
def structural (operation : String) : Edit Unit := do
  match (← get).kind with
  | .root => return
  | kind => throw (.of (.noSuchOperation operation kind.describe))

/-- A column reference that names something. -/
def named (operation : String) (column : ColumnRef) : Except Failure ColumnRef :=
  if column.isBlank then .error (.of (.emptyColumn operation)) else .ok column

def amend (change : Clauses → Clauses) : Edit Unit :=
  modify fun s => { s with clauses := change s.clauses }

/-- One number limits the rows; of two the first is where they start. -/
def limit (first : UInt64) (second : Option UInt64) : Edit Unit := do
  structural "limit"
  match second with
  | some n =>
    amend (·.withOffset first)
    amend (·.withLimit n)
  | none => amend (·.withLimit first)

def offset (n : UInt64) : Edit Unit := do
  structural "offset"
  amend (·.withOffset n)

def orderBy (column : ColumnRef) (direction : Direction) : Edit Unit := do
  structural "order"
  let column ← named "order" column
  let direction ← direction.read
  amend (·.addOrder column direction)

def groupBy (column : ColumnRef) : Edit Unit := do
  structural "group_by"
  let column ← named "group_by" column
  amend (·.addGroupBy column)

/-- No row twice; columns that are given are selected as well. -/
def distinct (columns : List String) : Edit Unit := do
  structural "distinct"
  amend (·.withDistinct)
  if !columns.isEmpty then amend (·.withSelected columns)

def select (columns : List String) : Edit Unit := do
  structural "select"
  amend (·.withSelected columns)

end Scope

end Criteria
