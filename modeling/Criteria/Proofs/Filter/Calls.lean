import Criteria.Filter.Program
import Criteria.Proofs.Success

/-!
# Calls on a scope

What one call makes of a scope, and what a body leaves behind. A call
that fails leaves the scope as it was. One that succeeds either adds one
child at the end, or changes the clauses of the root scope and nothing
else (`ScopeCall.Makes`). Wherever a body stops and whichever errors it
drops, the scope that it leaves was made by the calls that succeeded
(`Scope.Tried.reached`).

So an invariant of scopes has one case for each constructor of
`Scope.Reached`; bodies need no further induction.
-/

namespace Criteria

open Sql (Comparison Connective JoinKind)

/-! ## Edits -/

/-- An edit goes on from the scope that the part before it has left. A part
that fails is the last one, and the scope stays as it is then. -/
theorem Edit.on_bind {α β : Type} (s : Scope) (edit : Edit α) (rest : α → Edit β) :
    (edit >>= rest).on s = match edit.on s with
      | (t, .ok a) => (rest a).on t
      | (t, .error f) => (t, .error f) := by
  unfold on
  rcases hrun : edit.run.run s with ⟨f | a, t⟩
  · rw [ExceptT.run_bind, StateT.run_bind, hrun]
    rfl
  · rw [ExceptT.run_bind, StateT.run_bind, hrun]
    rfl

/-! ## Structural calls -/

theorem Scope.structural_root {s : Scope} (h : s.kind = .root) (operation : String) :
    (structural operation).on s = (s, .ok ()) := by
  obtain ⟨kind, group, clauses⟩ := s
  obtain rfl : kind = .root := h
  rfl

theorem Scope.structural_nested {s : Scope} (h : s.kind ≠ .root) (operation : String) :
    (structural operation).on s
      = (s, .error (.of (.noSuchOperation operation s.kind.describe))) := by
  obtain ⟨kind, group, clauses⟩ := s
  cases kind with
  | root => exact absurd rfl h
  | join => rfl
  | group => rfl

theorem Scope.named_ok {operation : String} {column result : ColumnRef}
    (h : Scope.named operation column = .ok result) :
    result = column ∧ result.isBlank = false := by
  unfold Scope.named at h
  split at h
  · cases h
  · rename_i hblank
    cases h
    exact ⟨rfl, by simpa using hblank⟩

/-- A structural call with its arguments. -/
inductive ClauseCall where
  | limit (first : UInt64) (second : Option UInt64)
  | offset (n : UInt64)
  | orderBy (column : ColumnRef) (direction : Direction)
  | groupBy (column : ColumnRef)
  | select (columns : List String)
  | distinct (columns : List String)

namespace ClauseCall

/-- The name under which a nested scope refuses the call. -/
def operation : ClauseCall → String
  | .limit .. => "limit"
  | .offset _ => "offset"
  | .orderBy .. => "order"
  | .groupBy _ => "group_by"
  | .select _ => "select"
  | .distinct _ => "distinct"

def edit : ClauseCall → Edit Unit
  | .limit first second => Scope.limit first second
  | .offset n => Scope.offset n
  | .orderBy column direction => Scope.orderBy column direction
  | .groupBy column => Scope.groupBy column
  | .select columns => Scope.select columns
  | .distinct columns => Scope.distinct columns

/-- The clauses after the call, in a scope that has any. -/
def change (c : Clauses) : ClauseCall → Except Failure Clauses
  | .limit first none => .ok (c.withLimit first)
  | .limit first (some n) => .ok ((c.withOffset first).withLimit n)
  | .offset n => .ok (c.withOffset n)
  | .orderBy column direction => do
    let column ← Scope.named "order" column
    let order ← direction.read
    return c.addOrder column order
  | .groupBy column => do
    let column ← Scope.named "group_by" column
    return c.addGroupBy column
  | .select columns => .ok (c.withSelected columns)
  | .distinct columns =>
    .ok (if columns.isEmpty then c.withDistinct else c.withDistinct.withSelected columns)

variable {s t : Scope}

/-- A root scope takes the call for what it says of clauses, and is left
alone when it says nothing: whatever can fail is looked at before the
first change. -/
theorem on_root (h : s.kind = .root) (call : ClauseCall) :
    call.edit.on s = match call.change s.clauses with
      | .ok clauses => ({ s with clauses }, .ok ())
      | .error f => (s, .error f) := by
  cases call with
  | limit first second =>
      unfold edit Scope.limit
      rw [Edit.on_bind, Scope.structural_root h]
      cases second <;> rfl
  | offset n =>
      rw [edit, Scope.offset, Edit.on_bind, Scope.structural_root h]
      rfl
  | orderBy column direction =>
      rw [edit, Scope.orderBy, Edit.on_bind, Scope.structural_root h, change]
      cases Scope.named "order" column with
      | error f => rfl
      | ok column =>
          cases direction.read with
          | error f => rfl
          | ok order => rfl
  | groupBy column =>
      rw [edit, Scope.groupBy, Edit.on_bind, Scope.structural_root h, change]
      cases Scope.named "group_by" column <;> rfl
  | select columns =>
      rw [edit, Scope.select, Edit.on_bind, Scope.structural_root h]
      rfl
  | distinct columns =>
      rw [edit, Scope.distinct, Edit.on_bind, Scope.structural_root h, change]
      cases columns <;> rfl

theorem on_nested (h : s.kind ≠ .root) (call : ClauseCall) :
    call.edit.on s = (s, .error (.of (.noSuchOperation call.operation s.kind.describe))) := by
  have hrefused := Scope.structural_nested h call.operation
  cases call <;>
    simp only [edit, Scope.limit, Scope.offset, Scope.orderBy, Scope.groupBy, Scope.select,
      Scope.distinct, operation] at hrefused ⊢ <;>
    rw [Edit.on_bind, hrefused]

/-- All that a structural call can do. -/
theorem on_ok {call : ClauseCall} (h : call.edit.on s = (t, .ok ())) :
    s.kind = .root ∧ ∃ clauses, call.change s.clauses = .ok clauses ∧ t = { s with clauses } := by
  by_cases hroot : s.kind = .root
  · rw [on_root hroot] at h
    cases hchange : call.change s.clauses with
    | error f =>
        rw [hchange] at h
        cases h
    | ok clauses =>
        rw [hchange] at h
        cases h
        exact ⟨hroot, clauses, rfl, rfl⟩
  · rw [on_nested hroot] at h
    cases h

theorem on_error {call : ClauseCall} {f : Failure} (h : call.edit.on s = (t, .error f)) :
    t = s := by
  by_cases hroot : s.kind = .root
  · rw [on_root hroot] at h
    cases hchange : call.change s.clauses with
    | error g =>
        rw [hchange] at h
        cases h
        rfl
    | ok clauses =>
        rw [hchange] at h
        cases h
  · rw [on_nested hroot] at h
    cases h
    rfl

end ClauseCall

/-! ## Calls -/

/-- The second scope has one child more than the first, at the end, and
differs in nothing else. -/
structure Scope.Gains (s t : Scope) (child : Node) : Prop where
  kind : t.kind = s.kind
  connective : t.group.connective = s.group.connective
  negated : t.group.negated = s.group.negated
  children : t.group.children = s.group.children ++ [child]
  clauses : t.clauses = s.clauses

theorem Scope.gains_add (s : Scope) (child : Node) : s.Gains (s.add child) child :=
  ⟨rfl, rfl, rfl, rfl, rfl⟩

/-- One call on a scope. The body of a group or a join may do anything
with the scope that it is given. -/
inductive ScopeCall where
  | restrict (r : Restriction)
  | group (connective : Connective) (negated : Bool) (body : Body)
  | having (association : String) (kind : JoinKind) (body : Body)
  | clause (call : ClauseCall)

namespace ScopeCall

def run (s : Scope) : ScopeCall → Outcome
  | .restrict r => (s.restrict r, .ok ())
  | .group connective negated body => s.groupOf connective negated body
  | .having association kind body => s.having association kind body
  | .clause call => call.edit.on s

/-- What a call that succeeds makes of a scope. A group and a join hold
what their body has left in the scope that it was given, which had no
children and no clauses. -/
inductive Makes (s t : Scope) : ScopeCall → Prop
  | restrict {r : Restriction} (hgains : s.Gains t (.restriction r)) : Makes s t (.restrict r)
  | group {connective : Connective} {negated : Bool} {body : Body} {inner : Scope}
      (hbody : body { kind := .group, group := { connective, negated, children := [] } }
        = (inner, .ok ()))
      (hgains : s.Gains t (.group inner.group)) : Makes s t (.group connective negated body)
  | having {association : String} {kind : JoinKind} {body : Body} {inner : Scope}
      (hbody : body { kind := .join, group := { connective := .all, children := [] } }
        = (inner, .ok ()))
      (hgains : s.Gains t (.join association kind inner.group)) :
      Makes s t (.having association kind body)
  | clause {call : ClauseCall} (hroot : s.kind = .root) (hkind : t.kind = s.kind)
      (hgroup : t.group = s.group) (hchange : call.change s.clauses = .ok t.clauses) :
      Makes s t (.clause call)

variable {s t : Scope} {call : ScopeCall}

theorem run_error {f : Failure} (h : call.run s = (t, .error f)) : t = s := by
  cases call with
  | restrict r => cases h
  | group connective negated body =>
      rw [run, Scope.groupOf] at h
      split at h <;> cases h
      rfl
  | having association kind body =>
      rw [run, Scope.having] at h
      split at h <;> cases h
      rfl
  | clause call => exact ClauseCall.on_error h

theorem run_ok (h : call.run s = (t, .ok ())) : call.Makes s t := by
  cases call with
  | restrict r =>
      cases h
      exact .restrict (s.gains_add _)
  | group connective negated body =>
      rw [run, Scope.groupOf] at h
      split at h
      · rename_i inner hbody
        cases h
        exact .group hbody (s.gains_add _)
      · cases h
  | having association kind body =>
      rw [run, Scope.having] at h
      split at h
      · rename_i inner hbody
        cases h
        exact .having hbody (s.gains_add _)
      · cases h
  | clause call =>
      obtain ⟨hroot, clauses, hchange, rfl⟩ := ClauseCall.on_ok h
      exact .clause hroot rfl rfl hchange

end ScopeCall

/-! ## Bodies -/

/-- A restriction after any number of operators. -/
inductive Restriction.Called : Restriction → Prop
  | bare (column : String) (negated : Bool) : Called { column, negated }
  | isNull {r : Restriction} (h : r.Called) : Called r.isNull
  | compare {r : Restriction} (c : Comparison) (v : Value) (h : r.Called) : Called (r.compare c v)
  | inList {r : Restriction} (v : Value) (h : r.Called) : Called (r.inList v)
  | like {r : Restriction} (v : Value) (h : r.Called) : Called (r.like v)
  | between {r : Restriction} (bounds : Value) (h : r.Called) : Called (r.between bounds)

namespace Restriction.Called

variable {r r' : Restriction}

theorem equalOrNull (h : r.Called) (v : Value) : (r.equalOrNull v).Called := by
  unfold Restriction.equalOrNull
  split
  · exact h.isNull
  · exact h.compare .equal v

theorem apply {args : List Value} {call : OperatorCall} (h : r.Called)
    (hcall : call.apply args r = .ok r') : r'.Called := by
  cases call with
  | isNull =>
      cases hcall
      exact h.isNull
  | compare c operand =>
      obtain ⟨v, -, hcall⟩ := except_bind_ok.mp hcall
      cases hcall
      exact h.compare c v
  | inList operand =>
      obtain ⟨v, -, hcall⟩ := except_bind_ok.mp hcall
      cases hcall
      exact h.inList v
  | like operand =>
      obtain ⟨v, -, hcall⟩ := except_bind_ok.mp hcall
      cases hcall
      exact h.like v
  | between bounds =>
      obtain ⟨v, -, hcall⟩ := except_bind_ok.mp hcall
      cases hcall
      exact h.between v

theorem applyAll {args : List Value} {calls : List OperatorCall} (h : r.Called)
    (hcalls : OperatorCall.applyAll args r calls = .ok r') : r'.Called := by
  induction calls generalizing r with
  | nil =>
      cases hcalls
      exact h
  | cons call rest ih =>
      obtain ⟨next, hnext, hcalls⟩ := except_bind_ok.mp hcalls
      exact ih (h.apply hnext) hcalls

end Restriction.Called

/-- The second scope is what calls that succeeded have made of the
first. -/
inductive Scope.Reached : Scope → Scope → Prop
  | refl (s : Scope) : Reached s s
  | restrict {s t : Scope} {r : Restriction} (h : Reached s t) (hr : r.Called) :
      Reached s { t with group := { t.group with
        children := t.group.children ++ [.restriction r] } }
  | group {s t inner : Scope} {connective : Connective} {negated : Bool} (h : Reached s t)
      (hbody : Reached { kind := .group, group := { connective, negated, children := [] } } inner) :
      Reached s { t with group := { t.group with
        children := t.group.children ++ [.group inner.group] } }
  | having {s t inner : Scope} {association : String} {kind : JoinKind} (h : Reached s t)
      (hbody : Reached { kind := .join, group := { connective := .all, children := [] } } inner) :
      Reached s { t with group := { t.group with
        children := t.group.children ++ [.join association kind inner.group] } }
  | clause {s t : Scope} {call : ClauseCall} {clauses : Clauses} (h : Reached s t)
      (hroot : t.kind = .root) (hchange : call.change t.clauses = .ok clauses) :
      Reached s { t with clauses }

/-- The second scope is what is left of the first after calls, whether
they succeed or fail. A body does the same to the scope that it is given,
and may go on after an error, pass it on, or fail for no reason. -/
inductive Scope.Tried : Scope → Scope → Prop
  | refl (s : Scope) : Tried s s
  | restrict {s t : Scope} {r : Restriction} (h : Tried s t) (hr : r.Called) :
      Tried s (t.restrict r)
  | group {s t : Scope} {connective : Connective} {negated : Bool} {body : Body} (h : Tried s t)
      (hbody : Tried (.inGroup connective negated) (body (.inGroup connective negated)).1) :
      Tried s (t.groupOf connective negated body).1
  | having {s t : Scope} {association : String} {kind : JoinKind} {body : Body} (h : Tried s t)
      (hbody : Tried .inJoin (body .inJoin).1) : Tried s (t.having association kind body).1
  | clause {s t : Scope} (call : ClauseCall) (h : Tried s t) : Tried s (call.edit.on t).1

/-- A body that does nothing but calls. -/
def Body.Calls (body : Body) : Prop := ∀ s : Scope, s.Tried (body s).1

namespace Scope

variable {s t u : Scope}

theorem Reached.trans (h : s.Reached t) (h' : t.Reached u) : s.Reached u := by
  induction h' with
  | refl => exact h
  | restrict _ hr ih => exact .restrict (ih h) hr
  | group _ hbody ih => exact .group (ih h) hbody
  | having _ hbody ih => exact .having (ih h) hbody
  | clause _ hroot hchange ih => exact .clause (ih h) hroot hchange

namespace Tried

theorem trans (h : s.Tried t) (h' : t.Tried u) : s.Tried u := by
  induction h' with
  | refl => exact h
  | restrict _ hr ih => exact .restrict (ih h) hr
  | group _ hbody ih => exact .group (ih h) hbody
  | having _ hbody ih => exact .having (ih h) hbody
  | clause call _ ih => exact .clause call (ih h)

/-- Of calls that fail there is no trace, neither in the scope nor in those
that bodies have filled. -/
theorem reached (h : s.Tried t) : s.Reached t := by
  induction h with
  | refl s => exact .refl s
  | restrict _ hr ih => exact .restrict ih hr
  | group _ _ ih ihBody =>
      unfold Scope.groupOf
      split
      · rename_i inner hinner
        rw [hinner] at ihBody
        exact .group ih ihBody
      · exact ih
  | having _ _ ih ihBody =>
      unfold Scope.having
      split
      · rename_i inner hinner
        rw [hinner] at ihBody
        exact .having ih ihBody
      · exact ih
  | @clause s t call _ ih =>
      rcases hrun : call.edit.on t with ⟨u, f | _⟩
      · rw [ClauseCall.on_error hrun]
        exact ih
      · obtain ⟨hroot, clauses, hchange, rfl⟩ := ClauseCall.on_ok hrun
        exact .clause ih hroot hchange

/-! ### The calls of a program -/

theorem eval {α : Type} {result : Except Failure α} {rest : α → Edit Unit}
    (h : ∀ a, result = .ok a → s.Tried ((rest a).on s).1) :
    s.Tried (Edit.on (do let a ← result; rest a) s).1 := by
  cases result with
  | error f => exact .refl s
  | ok a => exact h a rfl

theorem limitCall (args : List Value) (first : Count) (second : Option Count) (s : Scope) :
    s.Tried ((limitCall args first second).on s).1 := by
  refine .eval fun n _ => ?_
  cases n with
  | none => exact .refl s
  | some n =>
      cases second with
      | none => exact .clause (.limit n none) (.refl s)
      | some second => exact .eval fun m _ => .clause (.limit n m) (.refl s)

theorem offsetCall (args : List Value) (n : Count) (s : Scope) :
    s.Tried ((offsetCall args n).on s).1 := by
  refine .eval fun n _ => ?_
  cases n with
  | none => exact .refl s
  | some n => exact .clause (.offset n) (.refl s)

end Tried

end Scope

/-- A program goes on after a call, or it ends there. -/
theorem Step.runAll_cons (args : List Value) (step : Step) (rest : List Step) (s : Scope) :
    (Step.runAll args (step :: rest) s).1 = (Step.runAll args rest (step.run args s).1).1
      ∨ (Step.runAll args (step :: rest) s).1 = (step.run args s).1 := by
  rw [Step.runAll]
  split
  · rename_i after hrun
    rw [hrun]
    exact .inl rfl
  · rename_i after f hrun
    rw [hrun]
    exact .inr rfl

theorem dropError_fst (outcome : Outcome) : (dropError outcome).1 = outcome.1 := by
  unfold dropError
  split <;> rfl

mutual

theorem Step.run_calls (args : List Value) : ∀ step : Step, Body.Calls (step.run args)
  | .restrict column negated calls, s =>
      .eval fun _ hr => .restrict (.refl s) (.applyAll (.bare column negated) hr)
  | .restrictTo column negated value, s =>
      .eval fun v _ => .restrict (.refl s) (.equalOrNull (.bare column negated) v)
  | .group connective negated body, s => .group (.refl s) (Step.runAll_calls args body _)
  | .having association kind body, s => .having (.refl s) (Step.runAll_calls args body _)
  | .limit first second, s => .limitCall args first second s
  | .offset n, s => .offsetCall args n s
  | .orderBy column direction, s => .clause (.orderBy column direction) (.refl s)
  | .groupBy column, s => .clause (.groupBy column) (.refl s)
  | .select columns, s => .clause (.select columns) (.refl s)
  | .distinct columns, s => .clause (.distinct columns) (.refl s)
  | .attempt body, s => by
      rw [Step.run, dropError_fst]
      exact Step.runAll_calls args body s
  | .fail e, s => .refl s

theorem Step.runAll_calls (args : List Value) : ∀ steps : List Step,
    Body.Calls (Step.runAll args steps)
  | [], s => .refl s
  | step :: rest, s => by
      have hstep := Step.run_calls args step s
      rcases Step.runAll_cons args step rest s with h | h
      · rw [h]
        exact hstep.trans (Step.runAll_calls args rest _)
      · rw [h]
        exact hstep

end

/-- What a step leaves is the work of calls that succeeded, whether the
step itself fails or not. -/
theorem Step.run_reached (args : List Value) (step : Step) (s : Scope) :
    s.Reached (step.run args s).1 := (Step.run_calls args step s).reached

end Criteria
