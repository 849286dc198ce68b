import Criteria.Filter.Program

/-!
# Named filters

A filter body under a name, with parameters. Its arguments are checked
for number and shape before the body runs, and an error of the body says
which named filter it came from, unless an inner one has said so
already.
-/

namespace Criteria

inductive ParamKind where
  | any
  | scalar
  | list
deriving DecidableEq, Repr

namespace ParamKind

def name : ParamKind → String
  | .any => "Any"
  | .scalar => "Scalar"
  | .list => "List"

def accepts (k : ParamKind) (v : Value) : Bool :=
  match k with
  | .any => true
  | .scalar => !v.isList
  | .list => v.isList

end ParamKind

structure Param where
  name : String
  kind : ParamKind
deriving DecidableEq, Repr

structure Fragment where
  name : String
  params : List Param
  body : List Value → Body

namespace Fragment

/-- The first argument whose shape its parameter does not accept. -/
def misshapen? (params : List Param) (args : List Value) : Option (Param × Value) :=
  (params.zip args).find? fun (p, v) => !p.kind.accepts v

/-- What is wrong with the arguments: their number, or else the first
that is not of the right shape. -/
def problem? (f : Fragment) (args : List Value) : Option ArgumentProblem :=
  if args.length ≠ f.params.length then some (.count f.params.length args.length)
  else (misshapen? f.params args).map fun (p, v) => .shape p.name p.kind.name v.kind

def checkArgs (f : Fragment) (args : List Value) : Except Failure Unit :=
  match f.problem? args with
  | some problem => .error (.of (.argumentMismatch f.name problem))
  | none => .ok ()

/-- The body run on a scope; the scope is untouched if the arguments are
not accepted. -/
def apply (f : Fragment) (args : List Value) (s : Scope) : Outcome :=
  match f.checkArgs args with
  | .error failure => (s, .error failure)
  | .ok () =>
    match f.body args s with
    | (after, .ok ()) => (after, .ok ())
    | (after, .error failure) => (after, .error (failure.map (·.inFragment f.name)))

end Fragment

end Criteria
