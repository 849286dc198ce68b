import Criteria.Filter.Fragment
import Criteria.Schema.Association

/-!
# Record types

A record type with what it declares itself: its table, columns,
associations and named filters, and the type that it inherits from.
-/

namespace Criteria

structure Model where
  name : String
  table : Option String
  parent : Option ModelId := none
  columns : List String := []
  /-- The newest first; of two under one name the newer one counts. -/
  associations : List Association := []
  fragments : List Fragment := []

namespace Model

def association? (m : Model) (name : String) : Option Association :=
  m.associations.find? (·.name = name)

def fragment? (m : Model) (name : String) : Option Fragment := m.fragments.find? (·.name = name)

def declares (m : Model) (column : String) : Bool := m.columns.contains column

end Model

end Criteria
