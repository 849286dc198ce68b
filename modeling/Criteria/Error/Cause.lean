import Criteria.Text.Quoted
import Criteria.Text.Numeral

/-!
# Causes of errors

What can go wrong, each with the facts that tell it from others. A cause
settles the code and the message of its error; every wording of a message
is in this module.
-/

namespace Criteria

inductive ErrorCode where
  | malformedRestriction
  | noSuchOperation
  | invalidDirection
  | emptyColumn
  | duplicateFragmentName
  | argumentMismatch
  | unknownFragment
  | unknownModel
  | unknownAssociation
  | duplicateModel
  | invalidConfiguration
  | executor
deriving DecidableEq, Repr

namespace ErrorCode

/-- Thousands group the codes: restrictions, scopes, named filters, the
schema, configuration, execution. -/
def number : ErrorCode → Nat
  | .malformedRestriction => 1001
  | .noSuchOperation => 2001
  | .invalidDirection => 2002
  | .emptyColumn => 2003
  | .duplicateFragmentName => 3001
  | .argumentMismatch => 3002
  | .unknownFragment => 3003
  | .unknownModel => 4001
  | .unknownAssociation => 4002
  | .duplicateModel => 4003
  | .invalidConfiguration => 7001
  | .executor => 8001

def text (c : ErrorCode) : String := "F" ++ Text.numeral c.number

def description : ErrorCode → String
  | .malformedRestriction => "Malformed restriction"
  | .noSuchOperation => "Operation not available in this scope"
  | .invalidDirection => "Invalid order direction"
  | .emptyColumn => "Empty column reference"
  | .duplicateFragmentName => "Duplicate fragment name"
  | .argumentMismatch => "Fragment argument mismatch"
  | .unknownFragment => "Unknown fragment"
  | .unknownModel => "Unknown record type"
  | .unknownAssociation => "Unknown association"
  | .duplicateModel => "Duplicate record type"
  | .invalidConfiguration => "Invalid configuration"
  | .executor => "Executor error"

/-- The caller's program is at fault, rather than its surroundings. -/
def isProgramming (c : ErrorCode) : Bool :=
  c != .executor && c != .invalidConfiguration

end ErrorCode

/-! ## Causes -/

/-- What is wrong with a restriction. -/
inductive RestrictionProblem where
  | noOperator
  | noOperand (operator : String)
  | notAList (kind : String)
  | noBounds
  | other (text : String)
deriving DecidableEq, Repr

def RestrictionProblem.message : RestrictionProblem → String
  | .noOperator => "no operator was set"
  | .noOperand operator => operator ++ " requires an operand"
  | .notAList kind => "in expects a list but got " ++ kind
  | .noBounds => "between requires both a start and a finish"
  | .other text => text

/-- What is wrong with the arguments of a named filter. -/
inductive ArgumentProblem where
  | count (expected got : Nat)
  | shape (parameter expected got : String)
  | other (text : String)
deriving DecidableEq, Repr

def ArgumentProblem.message : ArgumentProblem → String
  | .count expected got =>
    "expected " ++ Text.numeral expected ++ " argument(s), got " ++ Text.numeral got
  | .shape parameter expected got => parameter ++ " expects " ++ expected ++ " but got " ++ got
  | .other text => text

inductive Cause where
  | malformedRestriction (column : String) (problem : RestrictionProblem)
  | noSuchOperation (operation scope : String)
  | invalidDirection (direction : String)
  | emptyColumn (operation : String)
  | duplicateFragment (model name : String)
  | argumentMismatch (fragment : String) (problem : ArgumentProblem)
  | unknownFragment (model name : String)
  | unknownModel (model : String)
  | duplicateModel (model : String)
  | unknownAssociation (model association : String)
  | invalidConfiguration (key value : String)
  | executor (text : String)
  | reported (code : ErrorCode) (message : String)
deriving DecidableEq, Repr

namespace Cause

def code : Cause → ErrorCode
  | .malformedRestriction .. => .malformedRestriction
  | .noSuchOperation .. => .noSuchOperation
  | .invalidDirection _ => .invalidDirection
  | .emptyColumn _ => .emptyColumn
  | .duplicateFragment .. => .duplicateFragmentName
  | .argumentMismatch .. => .argumentMismatch
  | .unknownFragment .. => .unknownFragment
  | .unknownModel _ => .unknownModel
  | .duplicateModel _ => .duplicateModel
  | .unknownAssociation .. => .unknownAssociation
  | .invalidConfiguration .. => .invalidConfiguration
  | .executor _ => .executor
  | .reported code _ => code

def message : Cause → String
  | .malformedRestriction column problem =>
    "Malformed restriction on " ++ column ++ ": " ++ problem.message
  | .noSuchOperation operation scope => operation ++ " is not available inside " ++ scope
  | .invalidDirection direction =>
    "The direction for orders must be either asc or desc but was " ++ direction
  | .emptyColumn operation => operation ++ " needs a column, path or expression"
  | .duplicateFragment model name =>
    "A named filter with the name " ++ name ++ " already exists on " ++ model
  | .argumentMismatch fragment problem =>
    "Wrong arguments for " ++ fragment ++ ": " ++ problem.message
  | .unknownFragment model name =>
    "No named filter " ++ name ++ " on " ++ model ++ " or its ancestors"
  | .unknownModel model => "No record type named " ++ model
  | .duplicateModel model => "A record type named " ++ model ++ " is already registered"
  | .unknownAssociation model association =>
    model ++ " has no association named " ++ association
  | .invalidConfiguration key value => "Invalid value " ++ Text.quoted value ++ " for " ++ key
  | .executor text => text
  | .reported _ message => message

end Cause

end Criteria
