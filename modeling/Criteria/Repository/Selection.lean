import Criteria.Repository
import Criteria.Repository.Executor

/-!
# Selections

A selection is a subject and the scope that the filters applied to it
have built. It is compiled when its query is first needed, and rows and
counts are kept once they were loaded; every extension forgets all three.
Errors are not kept, so what failed is tried again.
-/

namespace Criteria

structure FragmentCall where
  name : String
  args : List Value

structure Selection (ρ : Type) where
  subject : Subject
  /-- The named filters applied, the first one first. -/
  chain : List FragmentCall := []
  scope : Scope := .root
  query : Option Query := none
  records : Option (List ρ) := none
  count : Option UInt64 := none

namespace Selection

variable {σ ρ : Type}

/-- All records of a subject. -/
def all (subject : Subject) : Selection ρ := { subject }

/-! ## Extending -/

/-- A new scope, with nothing kept from the old one. -/
def extended (l : Selection ρ) (scope : Scope) : Selection ρ :=
  { l with scope, query := none, records := none, count := none }

/-- The selection with a body run on its scope. -/
def filter (l : Selection ρ) (body : Body) : Except Failure (Selection ρ) :=
  match body l.scope with
  | (scope, .ok ()) => .ok (l.extended scope)
  | (_, .error failure) => .error failure

/-- The selection with a named filter applied to its scope. -/
def fragment (repo : Repository) (l : Selection ρ) (name : String) (args : List Value) :
    Except Failure (Selection ρ) := do
  let fragment ← repo.schema.fragment l.subject.model name
  match fragment.apply args l.scope with
  | (scope, .ok ()) =>
    return { l.extended scope with chain := l.chain ++ [{ name, args }] }
  | (_, .error failure) => throw failure

/-! ## Looking -/

def fragmentNames (repo : Repository) (l : Selection ρ) : Except Failure (List String) :=
  repo.schema.fragmentNames l.subject.model

def table (repo : Repository) (l : Selection ρ) : Except Failure String :=
  repo.schema.table l.subject.model

def isCompiled (l : Selection ρ) : Bool := l.query.isSome

/-- The query, compiled unless it is kept from before. -/
def compiled (repo : Repository) (l : Selection ρ) : Except Failure Query × Selection ρ :=
  match l.query with
  | some query => (.ok query, l)
  | none =>
    match repo.schema.compile repo.config l.subject.model l.scope l.subject.base with
    | .ok query => (.ok query, { l with query := some query })
    | .error failure => (.error failure, l)

/-- The answer of an executor to the table and the query of a selection,
which is not asked unless there is a query. -/
def ask {α : Type} (repo : Repository) (run : String → Query → σ → Except Error α × σ)
    (l : Selection ρ) (s : σ) : Except Failure α × Selection ρ × σ :=
  match l.compiled repo with
  | (.error failure, l) => (.error failure, l, s)
  | (.ok query, l) =>
    match l.table repo with
    | .error failure => (.error failure, l, s)
    | .ok table =>
      let (result, s) := run table query s
      (result.mapError .refused, l, s)

/-- The rows, loaded unless they are kept from before. -/
def load (repo : Repository) (executor : Executor σ ρ) (l : Selection ρ) (s : σ) :
    Except Failure (List ρ) × Selection ρ × σ :=
  match l.records with
  | some rows => (.ok rows, l, s)
  | none =>
    match l.ask repo executor.find s with
    | (.ok rows, l, s) => (.ok rows, { l with records := some rows }, s)
    | failed => failed

/-- The number of rows, counted unless it is kept from before. -/
def countRows (repo : Repository) (executor : Executor σ ρ) (l : Selection ρ) (s : σ) :
    Except Failure UInt64 × Selection ρ × σ :=
  match l.count with
  | some n => (.ok n, l, s)
  | none =>
    match l.ask repo executor.count s with
    | (.ok n, l, s) => (.ok n, { l with count := some n }, s)
    | failed => failed

/-- The rows of a selection that is given up for them. -/
def intoRecords (repo : Repository) (executor : Executor σ ρ) (l : Selection ρ) (s : σ) :
    Except Failure (List ρ) × σ :=
  match l.records with
  | some rows => (.ok rows, s)
  | none =>
    let (result, _, s) := l.ask repo executor.find s
    (result, s)

end Selection

end Criteria
