import Criteria.Sql.Placeholder
import Criteria.Value

/-!
# Binders

The values of a statement in the order they are bound, each with the
placeholder that stands for it.
-/

namespace Criteria.Sql

structure Binder where
  style : PlaceholderStyle
  values : List Value := []

namespace Binder

def size (b : Binder) : Nat := b.values.length

/-- The placeholder of one more value. -/
def bind (b : Binder) (v : Value) : String × Binder :=
  (b.style.placeholder (b.size + 1), { b with values := b.values ++ [v] })

/-- A condition with its values, written in the style of the binder. -/
def splice (b : Binder) (condition : String) (values : List Value) : String × Binder :=
  (b.style.renumber b.size values.length condition, { b with values := b.values ++ values })

end Binder

end Criteria.Sql
