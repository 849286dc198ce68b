import Criteria.Filter.Scope

/-!
# Filter programs

Bodies as data: a list of steps, each one call on a scope. Values may be
left open as arguments, so a program can be kept under a name and run
again with other values. Running is structural in the steps. A program
stops at the first step that fails and leaves what the earlier ones
declared. A body need not be a program (`Body`), but whatever calls can
build, some program builds as well.
-/

namespace Criteria

open Sql (Comparison Connective JoinKind)

/-! ## Operands -/

/-- A value, or one to be taken from the arguments. -/
inductive Operand where
  | value (v : Value)
  | arg (index : Nat)
  | list (items : List Operand)

def argument (args : List Value) (index : Nat) : Except Failure Value :=
  match args[index]? with
  | some v => .ok v
  | none => .error (.broken (.missingArgument index))

mutual

def Operand.eval (args : List Value) : Operand → Except Failure Value
  | .value v => .ok v
  | .arg index => argument args index
  | .list items => do
    let vs ← Operand.evalAll args items
    return .list vs
termination_by structural o => o

def Operand.evalAll (args : List Value) : List Operand → Except Failure (List Value)
  | [] => .ok []
  | o :: rest => do
    let v ← o.eval args
    let vs ← Operand.evalAll args rest
    return v :: vs
termination_by structural l => l

end

/-- A number of rows, or an argument to be taken as one. -/
inductive Count where
  | literal (n : UInt64)
  | arg (index : Nat)

/-- An argument that is not an integer is no count. -/
def Count.eval (args : List Value) : Count → Except Failure (Option UInt64)
  | .literal n => .ok (some n)
  | .arg index => do
    let v ← argument args index
    return v.count?

/-! ## Steps -/

/-- A call of an operator on a restriction. -/
inductive OperatorCall where
  | isNull
  | compare (c : Comparison) (operand : Operand)
  | inList (operand : Operand)
  | like (operand : Operand)
  | between (bounds : Operand)

def OperatorCall.apply (args : List Value) (r : Restriction) :
    OperatorCall → Except Failure Restriction
  | .isNull => .ok r.isNull
  | .compare c operand => return r.compare c (← operand.eval args)
  | .inList operand => return r.inList (← operand.eval args)
  | .like operand => return r.like (← operand.eval args)
  | .between bounds => return r.between (← bounds.eval args)

/-- The restriction after the calls, one by one. -/
def OperatorCall.applyAll (args : List Value) (r : Restriction) :
    List OperatorCall → Except Failure Restriction
  | [] => .ok r
  | call :: rest => do
    let r ← call.apply args r
    OperatorCall.applyAll args r rest

inductive Step where
  | restrict (column : String) (negated : Bool) (calls : List OperatorCall)
  | restrictTo (column : String) (negated : Bool) (value : Operand)
  | group (connective : Connective) (negated : Bool) (body : List Step)
  | having (association : String) (kind : JoinKind) (body : List Step)
  | limit (first : Count) (second : Option Count)
  | offset (n : Count)
  | orderBy (column : ColumnRef) (direction : Direction)
  | groupBy (column : ColumnRef)
  | select (columns : List String)
  | distinct (columns : List String)
  /-- The body on the same scope, its error dropped. -/
  | attempt (body : List Step)
  /-- A refusal of the body's own. -/
  | fail (e : Error)

/-- A limit call with counts that may turn out to be none: without a
first count there is no call at all. -/
def limitCall (args : List Value) (first : Count) (second : Option Count) : Edit Unit := do
  match ← first.eval args with
  | none => return
  | some n =>
    match second with
    | none => Scope.limit n none
    | some second => Scope.limit n (← second.eval args)

def offsetCall (args : List Value) (n : Count) : Edit Unit := do
  match ← n.eval args with
  | none => return
  | some n => Scope.offset n

def restrictCall (args : List Value) (r : Restriction) (calls : List OperatorCall) :
    Edit Unit := do
  let r ← OperatorCall.applyAll args r calls
  modify (·.restrict r)

def restrictToCall (args : List Value) (r : Restriction) (value : Operand) : Edit Unit := do
  let v ← value.eval args
  modify (·.restrict (r.equalOrNull v))

/-- An error is dropped, a fault is not. -/
def dropError : Outcome → Outcome
  | (s, .error (.refused _)) => (s, .ok ())
  | outcome => outcome

mutual

def Step.run (args : List Value) : Step → Body
  | .restrict column negated calls, s => (restrictCall args { column, negated } calls).on s
  | .restrictTo column negated value, s => (restrictToCall args { column, negated } value).on s
  | .group connective negated body, s =>
    s.groupOf connective negated fun inner => Step.runAll args body inner
  | .having association kind body, s =>
    s.having association kind fun inner => Step.runAll args body inner
  | .limit first second, s => (limitCall args first second).on s
  | .offset n, s => (offsetCall args n).on s
  | .orderBy column direction, s => (Scope.orderBy column direction).on s
  | .groupBy column, s => (Scope.groupBy column).on s
  | .select columns, s => (Scope.select columns).on s
  | .distinct columns, s => (Scope.distinct columns).on s
  | .attempt body, s => dropError (Step.runAll args body s)
  | .fail e, s => (s, .error (.refused e))
termination_by structural step => step

def Step.runAll (args : List Value) : List Step → Body
  | [], s => (s, .ok ())
  | step :: rest, s =>
    match step.run args s with
    | (after, .ok ()) => Step.runAll args rest after
    | (after, .error f) => (after, .error f)
termination_by structural steps => steps

end

/-- Steps are a body that looks at no arguments, or at those it is
given. -/
instance : Coe (List Step) Body := ⟨Step.runAll []⟩

instance : Coe (List Step) (List Value → Body) := ⟨fun steps args => Step.runAll args steps⟩

end Criteria
