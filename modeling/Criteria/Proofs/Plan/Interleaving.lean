import Criteria.Proofs.Filter.Calls
import Criteria.Proofs.Plan.Joins

/-!
# Interleaved calls

Calls on a root scope, one after the other, whatever becomes of each. What
a call adds to the tree is up to the call (`ScopeCall.child?`), and what it
makes of the clauses is up to the clauses (`ClauseCall.amend`). So the two
kinds of calls do not get in each other's way, and a row of calls comes to
what its tree calls and its structural calls come to by themselves
(`ScopeCall.runAll_root`).

The main statement, `ScopeCall.folded`, says what that is for the clauses:
of limits, offsets and selections the last counts, orders and groupings add
up, and one call is enough for rows to be distinct (`Clauses.ofCalls`).
Structural calls that failed have no part in it.
-/

namespace Criteria

/-! ## What structural calls say -/

namespace ClauseCall

/-- How many rows a call asks for. -/
@[simp] def rows? : ClauseCall → Option UInt64
  | .limit first second => some (second.getD first)
  | _ => none

/-- From which row on. -/
@[simp] def start? : ClauseCall → Option UInt64
  | .limit first (some _) => some first
  | .offset n => some n
  | _ => none

@[simp] def entry? : ClauseCall → Option OrderEntry
  | .orderBy column direction =>
    match direction.read with
    | .ok direction => some { column, direction }
    | .error _ => none
  | _ => none

@[simp] def grouping? : ClauseCall → Option ColumnRef
  | .groupBy column => some column
  | _ => none

/-- The columns that a call selects, if it says any. -/
@[simp] def selection? : ClauseCall → Option (List String)
  | .select columns => some columns
  | .distinct columns => if columns.isEmpty then none else some columns
  | _ => none

@[simp] def isDistinct : ClauseCall → Bool
  | .distinct _ => true
  | _ => false

/-- A root scope takes the call: columns have names, and a direction that
is given as a word can be read. -/
def isAccepted : ClauseCall → Bool
  | .orderBy column direction => !column.isBlank && direction.read.isOk
  | .groupBy column => !column.isBlank
  | _ => true

end ClauseCall

/-- What structural calls say together, none of which has failed. -/
def Clauses.ofCalls (calls : List ClauseCall) : Clauses where
  limit := (calls.filterMap ClauseCall.rows?).getLast?
  offset := (calls.filterMap ClauseCall.start?).getLast?
  order := calls.filterMap ClauseCall.entry?
  groupBy := calls.filterMap ClauseCall.grouping?
  selected := (calls.filterMap ClauseCall.selection?).getLast?
  distinct := calls.any ClauseCall.isDistinct

namespace ClauseCall

/-- One more call that succeeds has its say. -/
theorem change_ofCalls {said : List ClauseCall} {call : ClauseCall} {c : Clauses}
    (h : call.change (.ofCalls said) = .ok c) : c = .ofCalls (said ++ [call]) := by
  cases call with
  | limit first second =>
      cases second <;> cases h <;>
        simp [Clauses.ofCalls, Clauses.withLimit, Clauses.withOffset]
  | offset n =>
      cases h
      simp [Clauses.ofCalls, Clauses.withOffset]
  | orderBy column direction =>
      obtain ⟨column', hcolumn, hrest⟩ := except_bind_ok.mp h
      obtain ⟨order, horder, hadded⟩ := except_bind_ok.mp hrest
      obtain ⟨rfl, -⟩ := Scope.named_ok hcolumn
      cases hadded
      simp [Clauses.ofCalls, Clauses.addOrder, horder]
  | groupBy column =>
      obtain ⟨column', hcolumn, hadded⟩ := except_bind_ok.mp h
      obtain ⟨rfl, -⟩ := Scope.named_ok hcolumn
      cases hadded
      simp [Clauses.ofCalls, Clauses.addGroupBy]
  | select columns =>
      cases h
      simp [Clauses.ofCalls, Clauses.withSelected]
  | distinct columns =>
      cases columns <;> cases h <;>
        simp [Clauses.ofCalls, Clauses.withSelected, Clauses.withDistinct]

theorem foldlM_ofCalls {said calls : List ClauseCall} {c : Clauses}
    (h : calls.foldlM change (.ofCalls said) = .ok c) : c = .ofCalls (said ++ calls) := by
  induction calls generalizing said with
  | nil =>
      cases h
      rw [List.append_nil]
  | cons call rest ih =>
      obtain ⟨c₁, hcall, hrest⟩ := except_bind_ok.mp h
      obtain rfl := change_ofCalls hcall
      rw [ih hrest, List.append_assoc, List.singleton_append]

/-- What clauses there are already does not matter to a call. -/
theorem change_isOk (c : Clauses) (call : ClauseCall) :
    (call.change c).isOk = call.isAccepted := by
  cases call with
  | limit first second => cases second <;> rfl
  | offset n => rfl
  | orderBy column direction =>
      rw [change, Scope.named, isAccepted]
      cases column.isBlank with
      | true => rfl
      | false => cases direction.read <;> rfl
  | groupBy column =>
      rw [change, Scope.named, isAccepted]
      cases column.isBlank <;> rfl
  | select columns => rfl
  | distinct columns => rfl

/-- The clauses after a call, which has changed nothing if it failed. -/
def amend (c : Clauses) (call : ClauseCall) : Clauses := (call.change c).toOption.getD c

end ClauseCall

/-! ## Rows of calls -/

namespace ScopeCall

/-- What a call adds to the tree, if it succeeds, on whichever scope. -/
def child? : ScopeCall → Option Node
  | .restrict r => some (.restriction r)
  | .group connective negated body =>
    match body (.inGroup connective negated) with
    | (inner, .ok ()) => some (.group inner.group)
    | (_, .error _) => none
  | .having association kind body =>
    match body .inJoin with
    | (inner, .ok ()) => some (.join association kind inner.group)
    | (_, .error _) => none
  | .clause _ => none

def clause? : ScopeCall → Option ClauseCall
  | .clause call => some call
  | _ => none

/-- A call is about the tree. -/
def isTree (call : ScopeCall) : Bool := call.clause?.isNone

/-- The scope after calls whose errors are ignored. -/
def runAll (s : Scope) (calls : List ScopeCall) : Scope :=
  calls.foldl (fun t call => (call.run t).1) s

/-- Those of the calls that succeed. -/
def successes (s : Scope) : List ScopeCall → List ScopeCall
  | [] => []
  | call :: rest =>
    match call.run s with
    | (after, .ok ()) => call :: successes after rest
    | (after, .error _) => successes after rest

variable {s : Scope}

theorem run_root (h : s.kind = .root) (call : ScopeCall) : (call.run s).1 =
    { s with
      group := { s.group with children := s.group.children ++ call.child?.toList }
      clauses := call.clause?.toList.foldl ClauseCall.amend s.clauses } := by
  cases call with
  | restrict r => rfl
  | group connective negated body =>
      rw [run, Scope.groupOf, child?]
      cases body (.inGroup connective negated) with
      | mk inner result => cases result <;> simp [Scope.add, GroupOf.add, clause?]
  | having association kind body =>
      rw [run, Scope.having, child?]
      cases body .inJoin with
      | mk inner result => cases result <;> simp [Scope.add, GroupOf.add, clause?]
  | clause call =>
      rw [run, ClauseCall.on_root h]
      cases hchange : call.change s.clauses <;>
        simp [child?, clause?, ClauseCall.amend, hchange, Except.toOption]

theorem run_kind (h : s.kind = .root) (call : ScopeCall) : (call.run s).1.kind = .root := by
  rw [run_root h, h]

theorem runAll_cons (s : Scope) (call : ScopeCall) (rest : List ScopeCall) :
    runAll s (call :: rest) = runAll (call.run s).1 rest := rfl

theorem runAll_root (h : s.kind = .root) (calls : List ScopeCall) : runAll s calls =
    { s with
      group := { s.group with children := s.group.children ++ calls.filterMap child? }
      clauses := (calls.filterMap clause?).foldl ClauseCall.amend s.clauses } := by
  induction calls generalizing s with
  | nil => simp [runAll]
  | cons call rest ih =>
      rw [runAll_cons, ih (run_kind h call), run_root h]
      cases hchild : call.child? <;> cases hclause : call.clause? <;> simp [hchild, hclause]

/-- Structural calls add no children. -/
theorem filterMap_child? (calls : List ScopeCall) :
    (calls.filter isTree).filterMap child? = calls.filterMap child? := by
  rw [List.filterMap_filter]
  refine List.filterMap_congr fun call _ => ?_
  cases call <;> rfl

/-- The structural calls that succeed do so by themselves as well, and come
to the same clauses. -/
theorem successes_clauses (h : s.kind = .root) (calls : List ScopeCall) :
    ((successes s calls).filterMap clause?).foldlM ClauseCall.change s.clauses
      = .ok (runAll s calls).clauses := by
  induction calls generalizing s with
  | nil => rfl
  | cons call rest ih =>
      have hroot := run_kind h call
      rw [runAll_cons, successes]
      split
      · rename_i after hrun
        rw [hrun] at hroot ⊢
        cases run_ok hrun with
        | restrict hgains => exact hgains.clauses ▸ ih hroot
        | group _ hgains => exact hgains.clauses ▸ ih hroot
        | having _ hgains => exact hgains.clauses ▸ ih hroot
        | clause _ _ _ hchange =>
            simp only [List.filterMap_cons, clause?, List.foldlM_cons, hchange]
            exact ih hroot
      · rename_i after f hrun
        rw [hrun] at hroot ⊢
        obtain rfl := run_error hrun
        exact ih hroot

theorem run_clause_isOk (h : s.kind = .root) (call : ClauseCall) :
    ((ScopeCall.clause call).run s).2.isOk = call.isAccepted := by
  rw [run, ClauseCall.on_root h, ← call.change_isOk s.clauses]
  cases call.change s.clauses <;> rfl

/-- Which structural calls succeed does not depend on the other calls. -/
theorem successes_accepted (h : s.kind = .root) (calls : List ScopeCall) :
    (successes s calls).filterMap clause? = (calls.filterMap clause?).filter (·.isAccepted) := by
  induction calls generalizing s with
  | nil => rfl
  | cons call rest ih =>
      have hroot := run_kind h call
      rw [successes]
      cases call with
      | restrict r => exact ih hroot
      | group connective negated body =>
          split <;> rename_i hrun <;> rw [hrun] at hroot <;> exact ih hroot
      | having association kind body =>
          split <;> rename_i hrun <;> rw [hrun] at hroot <;> exact ih hroot
      | clause call =>
          have haccepted := run_clause_isOk h call
          split <;> rename_i hrun <;> rw [hrun] at hroot haccepted
          · simp only [List.filterMap_cons, clause?, List.filter_cons, ← haccepted, ih hroot]
            rfl
          · simp only [List.filterMap_cons, clause?, List.filter_cons, ← haccepted, ih hroot]
            rfl

/-- What the structural calls of a row say, those that succeed on a root
scope. -/
def said (calls : List ScopeCall) : Clauses :=
  .ofCalls ((successes .root calls).filterMap clause?)

/-- What a row of calls comes to on a root scope. -/
structure Folded (calls : List ScopeCall) : Prop where
  /-- The tree is that of the tree calls alone, each of which adds a child
  if it succeeds. -/
  group : (runAll .root calls).group = (runAll .root (calls.filter isTree)).group
  children : (runAll .root calls).group.children = calls.filterMap child?
  /-- The structural calls that make sense succeed, wherever they stand. -/
  accepted : (successes .root calls).filterMap clause?
    = (calls.filterMap clause?).filter (·.isAccepted)
  /-- The clauses are what these come to, alone. -/
  alone : ((successes .root calls).filterMap clause?).foldlM ClauseCall.change {}
    = .ok (runAll .root calls).clauses
  clauses : (runAll .root calls).clauses = said calls
  /-- It does not matter which calls of one kind came before which of the
  other. -/
  interleaved : ∀ calls' : List ScopeCall, calls'.filter isTree = calls.filter isTree →
    calls'.filterMap clause? = calls.filterMap clause? →
    runAll .root calls' = runAll .root calls
      ∧ ∀ (s : Schema) (config : Config) (id : ModelId) (base : Option BaseCondition),
        s.compile config id (runAll .root calls') base
          = s.compile config id (runAll .root calls) base
  /-- What is not about tables stands in a query as it was said. -/
  compiled : ∀ (s : Schema) (config : Config) (id : ModelId) (base : Option BaseCondition)
    (q : Query), s.compile config id (runAll .root calls) base = .ok q →
      q.limit = (said calls).limit ∧ q.offset = (said calls).offset
        ∧ q.selected = (said calls).selected ∧ q.distinct = (said calls).distinct

/-- Structural calls fold by their own rules, and the rest of the filter is
none of their business. -/
theorem folded (calls : List ScopeCall) : Folded calls := by
  have halone : ((successes .root calls).filterMap clause?).foldlM ClauseCall.change (.ofCalls [])
      = .ok (runAll .root calls).clauses := successes_clauses (s := .root) rfl calls
  have hclauses : (runAll .root calls).clauses = said calls := ClauseCall.foldlM_ofCalls halone
  constructor
  case group => rw [runAll_root rfl, runAll_root rfl, filterMap_child?]
  case children =>
    rw [runAll_root rfl]
    rfl
  case accepted => exact successes_accepted rfl calls
  case alone => exact halone
  case clauses => exact hclauses
  case interleaved =>
    intro calls' htree hstructural
    have hsame : runAll .root calls' = runAll .root calls := by
      rw [runAll_root rfl, runAll_root rfl, ← filterMap_child? calls', htree, filterMap_child?,
        hstructural]
    exact ⟨hsame, fun s config id base => by rw [hsame]⟩
  case compiled =>
    intro s config id base q h
    obtain ⟨table, parts, order, groupBy, draft, -, -, rfl⟩ := Schema.compile_planned h
    rw [← hclauses]
    exact ⟨rfl, rfl, rfl, rfl⟩

/-- Calls about posts. The order is refused, and so is the group, inside of
which there is a limit. -/
def browsing : List ScopeCall :=
  [.clause (.limit 10 none), .restrict ({ column := "title", negated := true } : Restriction).isNull,
    .clause (.orderBy (.name " ") (.settled .asc)), .clause (.distinct ["id", "title"]),
    .group .any false (Step.runAll [] [.limit (.literal 1) none]), .clause (.limit 5 (some 20)),
    .having "author" .left (Step.runAll [] []), .clause (.select ["id"])]

/-- The same calls, those about the tree before the others. -/
def browsingSorted : List ScopeCall :=
  browsing.filter isTree ++ (browsing.filterMap clause?).map .clause

theorem folded_browsing :
    ∃ q, Schema.forum.compile {} ⟨0⟩ (runAll .root browsing) none = .ok q
      ∧ Schema.forum.compile {} ⟨0⟩ (runAll .root browsingSorted) none = .ok q
      ∧ q.limit = some 20 ∧ q.offset = some 5 ∧ q.selected = some ["id"] ∧ q.distinct = true := by
  have hfolded := folded browsing
  have hcompile : ∃ q, Schema.forum.compile {} ⟨0⟩ (runAll .root browsing) none = .ok q := ⟨_, rfl⟩
  obtain ⟨q, hq⟩ := hcompile
  obtain ⟨-, hsame⟩ := hfolded.interleaved browsingSorted rfl rfl
  obtain ⟨hlimit, hoffset, hselected, hdistinct⟩ := hfolded.compiled .forum {} ⟨0⟩ none q hq
  exact ⟨q, hq, (hsame .forum {} ⟨0⟩ none).trans hq, hlimit, hoffset, hselected, hdistinct⟩

end ScopeCall

end Criteria
