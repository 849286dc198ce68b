import Criteria.Schema.Lineage

/-!
# Schemas

The record types of an application, and what is looked up in them. Types
are numbered in the order of registration, and a name means the newest
type registered under it.
-/

namespace Criteria

structure Schema where
  models : Array Model := #[]

namespace Schema

/-- A lineage that comes to an end has no more types than the schema, and
one step more tells whether the end was issued. -/
def lineage (s : Schema) (id : ModelId) : Lineage := .climb s.models (s.models.size + 1) id

/-! ## Types -/

def model (s : Schema) (id : ModelId) : Except Failure Model :=
  match s.models[id.index]? with
  | some m => .ok m
  | none => .error (.broken (.unissuedModel id.index))

def name (s : Schema) (id : ModelId) : Except Failure String := return (← s.model id).name

/-- The newest of the first `n` types that has the name. -/
def newest? (models : Array Model) (name : String) : Nat → Option ModelId
  | 0 => none
  | n + 1 =>
    if models[n]?.any (·.name = name) then some ⟨n⟩ else newest? models name n

def find? (s : Schema) (name : String) : Option ModelId := newest? s.models name s.models.size

def find (s : Schema) (name : String) : Except Failure ModelId :=
  match s.find? name with
  | some id => .ok id
  | none => .error (.of (.unknownModel name))

/-- The table of the nearest type that declares one. -/
def table (s : Schema) (id : ModelId) : Except Failure String := do
  match ← (s.lineage id).findSome? (·.table) with
  | some table => return table
  | none => s.name id

/-- The name of the type at the end of the lineage, after which key
columns are called. -/
def baseName (s : Schema) (id : ModelId) : Except Failure String := do
  match (← (s.lineage id).all).getLast? with
  | some (_, m) => return m.name
  | none => s.name id

/-- Whether a column is declared; unknown where no type of the lineage
declares any. -/
def hasColumn (s : Schema) (id : ModelId) (column : String) : Except Failure (Option Bool) := do
  let lineage := s.lineage id
  match ← lineage.findSome? (fun m => if m.declares column then some () else none) with
  | some () => return some true
  | none => return if lineage.any (!·.columns.isEmpty) then some false else none

/-- A type as one end of a join, under the name of its table. -/
def endpoint (s : Schema) (id : ModelId) : Except Failure Endpoint := do
  let table ← s.table id
  let base ← s.baseName id
  return .plain table base

/-! ## Associations and named filters -/

/-- The association of the nearest type that has one of this name. -/
def association (s : Schema) (owner : ModelId) (name : String) : Except Failure Association := do
  match ← (s.lineage owner).findSome? (·.association? name) with
  | some a => return a
  | none => throw (.of (.unknownAssociation (← s.name owner) name))

/-- The named filter of the nearest type that has one of this name. -/
def fragment (s : Schema) (id : ModelId) (name : String) : Except Failure Fragment := do
  match ← (s.lineage id).findSome? (·.fragment? name) with
  | some f => return f
  | none => throw (.of (.unknownFragment (← s.name id) name))

/-- The names of all named filters of a type, its own before those it
inherits, each name once. -/
def fragmentNames (s : Schema) (id : ModelId) : Except Failure (List String) := do
  let types ← (s.lineage id).all
  return (types.flatMap fun t => t.2.fragments.map (·.name)).eraseDups

end Schema

/-! ## Naming a type -/

/-- A type by its name, or by its number taken as it is. -/
inductive ModelRef where
  | named (name : String)
  | issued (id : ModelId)

def ModelRef.resolve (s : Schema) : ModelRef → Except Failure ModelId
  | .named name => s.find name
  | .issued id => .ok id

end Criteria
