import Criteria.Plan

/-!
# Repositories

A schema with the way its statements are written, and the subjects that
filters start from.
-/

namespace Criteria

structure Repository where
  schema : Schema
  config : Config := {}

/-! ## Subjects -/

/-- What a filter is about: all records of a type, or those that a base
condition leaves. -/
structure Subject where
  model : ModelId
  base : Option BaseCondition := none

/-- The records of a type that a base condition leaves. -/
def Subject.within (model : ModelId) (base : BaseCondition) : Subject :=
  { model, base := some base }

/-- The records that an association gives to the owner with a key. -/
def Repository.association (repo : Repository) (owner : ModelId) (name : String) (key : Value) :
    Except Failure Subject := do
  let a ← repo.schema.association owner name
  let ownerEnd ← repo.schema.endpoint owner
  let targetEnd ← repo.schema.endpoint a.target
  let condition := a.scopingCondition ownerEnd targetEnd repo.config.quoteTables
  return .within a.target { condition, values := [key] }

end Criteria
