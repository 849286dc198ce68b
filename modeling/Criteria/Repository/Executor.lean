import Criteria.Error
import Criteria.Query

/-!
# Executors

What runs a query: `find` answers with the rows, `count` with their
number, and either may fail. An executor is a pair of functions on a
state, so that it may keep a log. The recorder answers from fixed rows
and logs every call; a fuse in front of an executor makes the first calls
fail before they reach it.
-/

namespace Criteria

/-- An executor with states in `σ` and rows in `ρ`. -/
structure Executor (σ ρ : Type) where
  find : String → Query → σ → Except Error (List ρ) × σ
  count : String → Query → σ → Except Error UInt64 × σ

inductive CallKind where
  | find
  | count
deriving DecidableEq, Repr

structure ExecutorCall where
  kind : CallKind
  table : String
  query : Query

/-! ## The recorder -/

structure Recorder (ρ : Type) where
  rows : List ρ := []
  total : Option UInt64 := none
  failure : Option String := none
  /-- The oldest first. -/
  calls : List ExecutorCall := []

namespace Recorder

variable {ρ : Type}

def log (r : Recorder ρ) (kind : CallKind) (table : String) (query : Query) : Recorder ρ :=
  { r with calls := r.calls ++ [⟨kind, table, query⟩] }

/-- The answer, unless the recorder is set to fail. -/
def answer {α : Type} (r : Recorder ρ) (a : α) : Except Error α :=
  match r.failure with
  | some text => .error { cause := .executor text }
  | none => .ok a

def executor : Executor (Recorder ρ) ρ where
  find table query r := (r.answer r.rows, r.log .find table query)
  count table query r :=
    (r.answer (r.total.getD (UInt64.ofNat r.rows.length)), r.log .count table query)

/-- The query of the latest find. -/
def lastFind? (r : Recorder ρ) : Option Query :=
  (r.calls.reverse.find? (·.kind = .find)).map (·.query)

end Recorder

/-! ## Fuses -/

/-- An executor's state behind a fuse with calls left to fail. -/
structure Fused (σ : Type) where
  remaining : Nat
  inner : σ

namespace Fused

variable {σ ρ α : Type}

/-- A call through the fuse. -/
def call (inner : σ → Except Error α × σ) (s : Fused σ) : Except Error α × Fused σ :=
  match s.remaining with
  | n + 1 => (.error { cause := .executor "fuse" }, { s with remaining := n })
  | 0 =>
    let (result, after) := inner s.inner
    (result, { s with inner := after })

def executor (e : Executor σ ρ) : Executor (Fused σ) ρ where
  find table query := call (e.find table query)
  count table query := call (e.count table query)

end Fused

end Criteria
