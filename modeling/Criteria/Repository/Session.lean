import Criteria.Repository.Selection

/-!
# Sessions

A sequence of steps on selections that are held under names, in front of
one executor. Extending a selection uses it up: it is taken out of the
session before the extension is tried, and is gone when that fails.
-/

namespace Criteria

/-- What a step starts from. -/
inductive Origin where
  | model (ref : ModelRef)
  | within (ref : ModelRef) (base : BaseCondition)
  | association (ref : ModelRef) (name : String) (key : Value)
  | held (name : String)

/-- What a session refuses: a name that it holds nothing under, or what
the repository refuses. -/
inductive SessionFailure where
  | notHeld
  | failed (f : Failure)

structure Session (σ ρ : Type) where
  selections : List (String × Selection ρ) := []
  state : σ

namespace Session

variable {σ ρ α : Type}

def get? (s : Session σ ρ) (name : String) : Option (Selection ρ) := s.selections.lookup name

def erase (s : Session σ ρ) (name : String) : Session σ ρ :=
  { s with selections := s.selections.filter (·.1 != name) }

/-- A selection held under a name, in place of what was there. -/
def insert (s : Session σ ρ) (name : String) (l : Selection ρ) : Session σ ρ :=
  { s.erase name with selections := (name, l) :: (s.erase name).selections }

/-- A step's answer with the session after it. -/
abbrev Answer (σ ρ α : Type) := Except SessionFailure α × Session σ ρ

/-! ## Extending -/

/-- The subject that an origin names, unless it is a selection. -/
def subject? (repo : Repository) : Origin → Except Failure (Option Subject)
  | .model ref => do
    let model ← ref.resolve repo.schema
    return some { model }
  | .within ref base => do
    let model ← ref.resolve repo.schema
    return some (.within model base)
  | .association ref name key => do
    let owner ← ref.resolve repo.schema
    return some (← repo.association owner name key)
  | .held _ => return none

/-- The selection that an origin names, taken out if the session holds
it. -/
def start (repo : Repository) (s : Session σ ρ) (origin : Origin) : Answer σ ρ (Selection ρ) :=
  match origin with
  | .held name =>
    match s.get? name with
    | some l => (.ok l, s.erase name)
    | none => (.error .notHeld, s)
  | origin =>
    match subject? repo origin with
    | .ok (some subject) => (.ok (.all subject), s)
    | .ok none => (.error .notHeld, s)
    | .error f => (.error (.failed f), s)

/-- A selection built from an origin and held under a name. -/
def build (repo : Repository) (s : Session σ ρ) (origin : Origin) (name : String)
    (extend : Selection ρ → Except Failure (Selection ρ)) : Answer σ ρ (Selection ρ) :=
  match s.start repo origin with
  | (.error f, s) => (.error f, s)
  | (.ok l, s) =>
    match extend l with
    | .ok l => (.ok l, s.insert name l)
    | .error failure => (.error (.failed failure), s)

def all (repo : Repository) (s : Session σ ρ) (origin : Origin) (name : String) :
    Answer σ ρ (Selection ρ) :=
  s.build repo origin name .ok

def filter (repo : Repository) (s : Session σ ρ) (origin : Origin) (name : String)
    (body : Body) : Answer σ ρ (Selection ρ) :=
  s.build repo origin name (·.filter body)

def fragment (repo : Repository) (s : Session σ ρ) (origin : Origin) (name : String)
    (fragmentName : String) (args : List Value) : Answer σ ρ (Selection ρ) :=
  s.build repo origin name (·.fragment repo fragmentName args)

/-! ## Looking -/

/-- A look at a selection that may leave it with more kept than
before. -/
def look (s : Session σ ρ) (name : String)
    (observe : Selection ρ → σ → Except Failure α × Selection ρ × σ) : Answer σ ρ α :=
  match s.get? name with
  | none => (.error .notHeld, s)
  | some l =>
    let (result, l, state) := observe l s.state
    (result.mapError .failed, { s.insert name l with state })

def query (repo : Repository) (s : Session σ ρ) (name : String) : Answer σ ρ Query :=
  s.look name fun l state =>
    let (result, l) := l.compiled repo
    (result, l, state)

def records (repo : Repository) (executor : Executor σ ρ) (s : Session σ ρ) (name : String) :
    Answer σ ρ (List ρ) :=
  s.look name (·.load repo executor ·)

def count (repo : Repository) (executor : Executor σ ρ) (s : Session σ ρ) (name : String) :
    Answer σ ρ UInt64 :=
  s.look name (·.countRows repo executor ·)

/-- The rows of a selection, which the session no longer holds. -/
def intoRecords (repo : Repository) (executor : Executor σ ρ) (s : Session σ ρ)
    (name : String) : Answer σ ρ (List ρ) :=
  match s.get? name with
  | none => (.error .notHeld, s)
  | some l =>
    let (result, state) := l.intoRecords repo executor s.state
    (result.mapError .failed, { s.erase name with state })

end Session

end Criteria
