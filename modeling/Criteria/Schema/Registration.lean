import Criteria.Schema

/-!
# Registration

How a schema grows. Types are only ever added, at the end, so a number
that was issued keeps its meaning; what a type declares may grow later.
-/

namespace Criteria.Schema

/-! ## Types -/

def register (s : Schema) (m : Model) : Schema × ModelId :=
  ({ s with models := s.models.push m }, ⟨s.models.size⟩)

/-- Registration of a type whose name is not taken. -/
def tryRegister (s : Schema) (m : Model) : Except Failure (Schema × ModelId) :=
  match s.find? m.name with
  | some _ => .error (.of (.duplicateModel m.name))
  | none => .ok (s.register m)

/-- A type that shares the table of its parent. -/
def registerSubtype (s : Schema) (parent : ModelId) (name : String) : Schema × ModelId :=
  s.register { name, table := none, parent := some parent }

/-- A type with a parent and a table of its own. -/
def registerSubtypeWithTable (s : Schema) (parent : ModelId) (m : Model) : Schema × ModelId :=
  s.register { m with parent := some parent }

/-! ## Associations and named filters -/

/-- A change to one type. -/
def modify (s : Schema) (id : ModelId) (change : Model → Model) : Schema :=
  { s with models := s.models.modify id.index change }

def addAssociation (s : Schema) (owner : ModelId) (a : Association) : Except Failure Schema := do
  let _ ← s.model owner
  return s.modify owner fun m => { m with associations := a :: m.associations }

/-- A named filter under a name that no type of the lineage uses yet. -/
def defineFragment (s : Schema) (id : ModelId) (f : Fragment) : Except Failure Schema := do
  match ← (s.lineage id).findSome? (·.fragment? f.name) with
  | some _ => throw (.of (.duplicateFragment (← s.name id) f.name))
  | none => return s.modify id fun m => { m with fragments := m.fragments ++ [f] }

end Criteria.Schema
