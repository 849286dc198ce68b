import Criteria.Filter.Program

/-!
# Bodies in sequence

Bodies that were written apart can be run in turn as one (`Body.inTurn`).
Programs, each with arguments of its own, become one program with one list
of arguments. The lists are put one behind the other, and each program
counts its arguments from where its own begin (`Step.inSequence`). The
main statement, `Runs.inSequence`: if the programs succeed in turn, so
does the one program, and it leaves the same scope.

A program that asks for an argument that was never passed cannot go on.
Moved behind others it may find an argument of a neighbour in that place,
so a moved program does what the program does unless that breaks for want
of an argument (`Carried`). Such a break is a fault and no error, so no
step drops it, and a program that succeeds had none.
-/

namespace Criteria

open Sql (Connective JoinKind)

/-! ## Programs moved to other arguments -/

mutual

/-- The operand with its arguments looked up `k` places further on. -/
def Operand.shift (k : Nat) : Operand → Operand
  | .value v => .value v
  | .arg index => .arg (k + index)
  | .list items => .list (Operand.shiftAll k items)
termination_by structural o => o

def Operand.shiftAll (k : Nat) : List Operand → List Operand
  | [] => []
  | o :: rest => o.shift k :: Operand.shiftAll k rest
termination_by structural l => l

end

def Count.shift (k : Nat) : Count → Count
  | .literal n => .literal n
  | .arg index => .arg (k + index)

def OperatorCall.shift (k : Nat) : OperatorCall → OperatorCall
  | .isNull => .isNull
  | .compare c operand => .compare c (operand.shift k)
  | .inList operand => .inList (operand.shift k)
  | .like operand => .like (operand.shift k)
  | .between bounds => .between (bounds.shift k)

mutual

def Step.shift (k : Nat) : Step → Step
  | .restrict column negated calls => .restrict column negated (calls.map (·.shift k))
  | .restrictTo column negated value => .restrictTo column negated (value.shift k)
  | .group connective negated body => .group connective negated (Step.shiftAll k body)
  | .having association kind body => .having association kind (Step.shiftAll k body)
  | .limit first second => .limit (first.shift k) (second.map (·.shift k))
  | .offset n => .offset (n.shift k)
  | .orderBy column direction => .orderBy column direction
  | .groupBy column => .groupBy column
  | .select columns => .select columns
  | .distinct columns => .distinct columns
  | .attempt body => .attempt (Step.shiftAll k body)
  | .fail e => .fail e
termination_by structural step => step

def Step.shiftAll (k : Nat) : List Step → List Step
  | [] => []
  | step :: rest => step.shift k :: Step.shiftAll k rest
termination_by structural steps => steps

end

/-! ## What is carried over -/

/-- The failure of a program that asks for an argument that was never
passed. -/
def Failure.Wanting (f : Failure) : Prop := ∃ index, f = .broken (.missingArgument index)

/-- The second result is the first, unless that is wanting an argument. -/
def Carried {α : Type} (x y : Except Failure α) : Prop :=
  (∃ f, x = .error f ∧ f.Wanting) ∨ y = x

/-- The same of what bodies leave behind. -/
def Outcome.Carried (x y : Outcome) : Prop := (∃ f, x.2 = .error f ∧ f.Wanting) ∨ y = x

/-- Among all arguments these stand `k` places further on. -/
def Behind (k : Nat) (args all : List Value) : Prop :=
  ∀ index v, args[index]? = some v → all[k + index]? = some v

theorem behind_append (before args rest : List Value) :
    Behind before.length args (before ++ (args ++ rest)) := by
  intro index v hv
  have hindex : index < args.length := (List.getElem?_eq_some_iff.mp hv).1
  rw [List.getElem?_append_right (by omega), Nat.add_sub_cancel_left,
    List.getElem?_append_left hindex, hv]

namespace Carried

variable {α β : Type}

theorem refl (x : Except Failure α) : Carried x x := .inr rfl

theorem bind {x y : Except Failure α} {f g : α → Except Failure β} (h : Carried x y)
    (hrest : ∀ a, Carried (f a) (g a)) : Carried (x >>= f) (y >>= g) := by
  rcases h with ⟨failure, rfl, hwanting⟩ | rfl
  · exact .inl ⟨failure, rfl, hwanting⟩
  · cases y with
    | error failure => exact .inr rfl
    | ok a => exact hrest a

/-- An edit that begins with an evaluation. -/
theorem edit {x y : Except Failure α} {f g : α → Edit Unit} {s : Scope} (h : Carried x y)
    (hrest : ∀ a, Outcome.Carried ((f a).on s) ((g a).on s)) :
    Outcome.Carried (Edit.on (do let a ← x; f a) s) (Edit.on (do let a ← y; g a) s) := by
  rcases h with ⟨failure, rfl, hwanting⟩ | rfl
  · exact .inl ⟨failure, rfl, hwanting⟩
  · cases y with
    | error failure => exact .inr rfl
    | ok a => exact hrest a

end Carried

namespace Outcome.Carried

variable {x y : Outcome}

theorem refl (x : Outcome) : Outcome.Carried x x := .inr rfl

/-- What passes on this fault may do anything with another outcome. -/
theorem map (h : Outcome.Carried x y) {g : Outcome → Outcome}
    (hg : ∀ s f, f.Wanting → (g (s, .error f)).2 = .error f) :
    Outcome.Carried (g x) (g y) := by
  rcases h with ⟨f, hfails, hwanting⟩ | rfl
  · obtain ⟨s, result⟩ := x
    obtain rfl : result = .error f := hfails
    exact .inl ⟨f, hg s f hwanting, hwanting⟩
  · exact .refl _

theorem groupOf (h : Outcome.Carried x y) (s : Scope) (connective : Connective) (negated : Bool) :
    Outcome.Carried (s.groupOf connective negated fun _ => x)
      (s.groupOf connective negated fun _ => y) :=
  h.map (g := fun inner => s.groupOf connective negated fun _ => inner) fun _ _ _ => rfl

theorem having (h : Outcome.Carried x y) (s : Scope) (association : String) (kind : JoinKind) :
    Outcome.Carried (s.having association kind fun _ => x)
      (s.having association kind fun _ => y) :=
  h.map (g := fun inner => s.having association kind fun _ => inner) fun _ _ _ => rfl

/-- A step that drops errors does not drop a fault. -/
theorem dropError (h : Outcome.Carried x y) :
    Outcome.Carried (Criteria.dropError x) (Criteria.dropError y) :=
  h.map fun _ _ hwanting => by
    obtain ⟨index, rfl⟩ := hwanting
    rfl

end Outcome.Carried

/-! ## Running what was moved -/

variable {k : Nat} {args all : List Value}

theorem argument_shift (h : Behind k args all) (index : Nat) :
    Carried (argument args index) (argument all (k + index)) := by
  unfold argument
  cases hv : args[index]? with
  | none => exact .inl ⟨_, rfl, index, rfl⟩
  | some v =>
      rw [h index v hv]
      exact .refl _

mutual

theorem Operand.eval_shift (h : Behind k args all) : ∀ o : Operand,
    Carried (o.eval args) ((o.shift k).eval all)
  | .value _ => .refl _
  | .arg index => argument_shift h index
  | .list items => (Operand.evalAll_shift h items).bind fun _ => .refl _

theorem Operand.evalAll_shift (h : Behind k args all) : ∀ items : List Operand,
    Carried (Operand.evalAll args items) (Operand.evalAll all (Operand.shiftAll k items))
  | [] => .refl _
  | o :: rest => (Operand.eval_shift h o).bind fun _ =>
      (Operand.evalAll_shift h rest).bind fun _ => .refl _

end

theorem Count.eval_shift (h : Behind k args all) (n : Count) :
    Carried (n.eval args) ((n.shift k).eval all) := by
  cases n with
  | literal n => exact .refl _
  | arg index => exact (argument_shift h index).bind fun _ => .refl _

theorem OperatorCall.apply_shift (h : Behind k args all) (call : OperatorCall) (r : Restriction) :
    Carried (call.apply args r) ((call.shift k).apply all r) := by
  cases call with
  | isNull => exact .refl _
  | compare c operand => exact (Operand.eval_shift h operand).bind fun _ => .refl _
  | inList operand => exact (Operand.eval_shift h operand).bind fun _ => .refl _
  | like operand => exact (Operand.eval_shift h operand).bind fun _ => .refl _
  | between bounds => exact (Operand.eval_shift h bounds).bind fun _ => .refl _

theorem OperatorCall.applyAll_shift (h : Behind k args all) (calls : List OperatorCall)
    (r : Restriction) : Carried (OperatorCall.applyAll args r calls)
      (OperatorCall.applyAll all r (calls.map (·.shift k))) := by
  induction calls generalizing r with
  | nil => exact .refl _
  | cons call rest ih => exact (OperatorCall.apply_shift h call r).bind fun r => ih r

theorem limitCall_shift (h : Behind k args all) (first : Count) (second : Option Count)
    (s : Scope) : Outcome.Carried ((limitCall args first second).on s)
      ((limitCall all (first.shift k) (second.map (·.shift k))).on s) := by
  refine (Count.eval_shift h first).edit fun n => ?_
  cases n with
  | none => exact .refl _
  | some n =>
      cases second with
      | none => exact .refl _
      | some second => exact (Count.eval_shift h second).edit fun _ => .refl _

theorem offsetCall_shift (h : Behind k args all) (n : Count) (s : Scope) :
    Outcome.Carried ((offsetCall args n).on s) ((offsetCall all (n.shift k)).on s) :=
  (Count.eval_shift h n).edit fun _ => .refl _

mutual

/-- A step that was moved does what the step does on its own arguments,
unless that is wanting one. -/
theorem Step.run_shift (h : Behind k args all) : ∀ (step : Step) (s : Scope),
    Outcome.Carried (step.run args s) ((step.shift k).run all s)
  | .restrict _ _ calls, _ => (OperatorCall.applyAll_shift h calls _).edit fun _ => .refl _
  | .restrictTo _ _ value, _ => (Operand.eval_shift h value).edit fun _ => .refl _
  | .group connective negated body, s => (Step.runAll_shift h body _).groupOf s connective negated
  | .having association kind body, s => (Step.runAll_shift h body _).having s association kind
  | .limit first second, s => limitCall_shift h first second s
  | .offset n, s => offsetCall_shift h n s
  | .orderBy .., _ => .refl _
  | .groupBy _, _ => .refl _
  | .select _, _ => .refl _
  | .distinct _, _ => .refl _
  | .attempt body, s => (Step.runAll_shift h body s).dropError
  | .fail _, _ => .refl _

theorem Step.runAll_shift (h : Behind k args all) : ∀ (steps : List Step) (s : Scope),
    Outcome.Carried (Step.runAll args steps s) (Step.runAll all (Step.shiftAll k steps) s)
  | [], s => .refl _
  | step :: rest, s => by
      rw [Step.shiftAll, Step.runAll, Step.runAll]
      rcases Step.run_shift h step s with ⟨failure, hfails, hwanting⟩ | heq
      · rcases hrun : step.run args s with ⟨after, result⟩
        rw [hrun] at hfails
        obtain rfl : result = .error failure := hfails
        exact .inl ⟨failure, rfl, hwanting⟩
      · rw [heq]
        rcases step.run args s with ⟨after, failure | _⟩
        · exact .refl _
        · exact Step.runAll_shift h rest after

end

/-! ## One body after another -/

theorem Step.runAll_append {args : List Value} {xs ys : List Step} {s t : Scope}
    (hxs : Step.runAll args xs s = (t, .ok ())) :
    Step.runAll args (xs ++ ys) s = Step.runAll args ys t := by
  induction xs generalizing s with
  | nil =>
      cases hxs
      rfl
  | cons step rest ih =>
      rw [List.cons_append, Step.runAll]
      rw [Step.runAll] at hxs
      rcases hrun : step.run args s with ⟨after, failure | _⟩
      · rw [hrun] at hxs
        cases hxs
      · rw [hrun] at hxs
        exact ih hxs

/-- Bodies succeed in turn, each on the scope that the one before it has
left. -/
inductive Runs : List Body → Scope → Scope → Prop
  | nil (s : Scope) : Runs [] s s
  | cons {body : Body} {rest : List Body} {s t u : Scope} (hbody : body s = (t, .ok ()))
      (hrest : Runs rest t u) : Runs (body :: rest) s u

/-- Bodies as one, up to the first that fails. -/
def Body.inTurn : List Body → Body
  | [], s => (s, .ok ())
  | body :: rest, s =>
    match body s with
    | (t, .ok ()) => Body.inTurn rest t
    | (t, .error f) => (t, .error f)

theorem Runs.inTurn {bodies : List Body} {s t : Scope} (h : Runs bodies s t) :
    Body.inTurn bodies s = (t, .ok ()) := by
  induction h with
  | nil s => rfl
  | cons hbody _ ih =>
      rw [Body.inTurn, hbody]
      exact ih

/-- A program with the arguments that it is run on. -/
abbrev Program := List Step × List Value

def Program.body (p : Program) : Body := Step.runAll p.2 p.1

/-- The programs as one; `k` arguments stand before those of the first. -/
def Step.inSequence (k : Nat) : List Program → List Step
  | [] => []
  | (steps, args) :: rest => Step.shiftAll k steps ++ Step.inSequence (k + args.length) rest

/-- Programs that succeed in turn succeed as one program, on all their
arguments in a row, and what they leave is the same. -/
theorem Runs.inSequence {programs : List Program} {s t : Scope}
    (h : Runs (programs.map Program.body) s t) (before : List Value) :
    Step.runAll (before ++ programs.flatMap (·.2)) (Step.inSequence before.length programs) s
      = (t, .ok ()) := by
  induction programs generalizing s before with
  | nil =>
      cases h
      rfl
  | cons program programs ih =>
      obtain ⟨steps, args⟩ := program
      obtain _ | @⟨_, _, _, u, _, hbody, hruns⟩ := h
      have hmoved : Step.runAll (before ++ (args ++ programs.flatMap (·.2)))
          (Step.shiftAll before.length steps) s = (u, .ok ()) := by
        have hbehind := behind_append before args (programs.flatMap (·.2))
        rcases Step.runAll_shift hbehind steps s with ⟨f, hfails, -⟩ | heq
        · rw [show Step.runAll args steps s = (u, .ok ()) from hbody] at hfails
          cases hfails
        · exact heq.trans hbody
      have hrest := ih hruns (before ++ args)
      rw [List.length_append, List.append_assoc] at hrest
      rw [List.flatMap_cons, Step.inSequence, Step.runAll_append hmoved, hrest]

end Criteria
