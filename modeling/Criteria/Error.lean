import Criteria.Error.Cause

/-!
# Errors and failures

An error has a cause, a context of what was being done to what, and
perhaps the text of a further error behind it. The context of a fresh
error is read off its cause; the layers an error passes through add to
it.

A failure is such an error, or a broken promise of the caller, for which
there is no answer at all.
-/

namespace Criteria

/-! ## Errors -/

structure ErrorContext where
  operation : Option String := none
  model : Option String := none
  fragment : Option String := none
  column : Option String := none
  suggestions : List String := []
deriving DecidableEq, Repr

/-- What a cause tells of the context of its error. -/
def Cause.context : Cause → ErrorContext
  | .malformedRestriction column .noOperator =>
    { column := some column
      suggestions :=
        ["Call equal_to, like, in_list, between, is_null or a comparison after with()"] }
  | .malformedRestriction column _ => { column := some column }
  | .noSuchOperation operation _ =>
    { operation := some operation
      suggestions := ["Declare limit, offset, order, group_by, select and distinct " ++
        "at the top level of the filter"] }
  | .invalidDirection _ => { operation := some "order" }
  | .emptyColumn operation => { operation := some operation }
  | .duplicateFragment model name => { model := some model, fragment := some name }
  | .argumentMismatch fragment _ => { fragment := some fragment }
  | .unknownFragment model name => { model := some model, fragment := some name }
  | .unknownModel model => { model := some model }
  | .duplicateModel model => { model := some model }
  | .unknownAssociation model _ => { model := some model }
  | .invalidConfiguration .. => {}
  | .executor _ => {}
  | .reported .. => {}

/-- What a cause tells of the error behind it. -/
def Cause.source : Cause → Option String
  | .executor text => some text
  | _ => none

structure Error where
  cause : Cause
  context : ErrorContext := cause.context
  source : Option String := cause.source
deriving DecidableEq, Repr

namespace Error

def code (e : Error) : ErrorCode := e.cause.code

def message (e : Error) : String := e.cause.message

def withOperation (e : Error) (operation : String) : Error :=
  { e with context := { e.context with operation := some operation } }

def withModel (e : Error) (model : String) : Error :=
  { e with context := { e.context with model := some model } }

def withFragment (e : Error) (fragment : String) : Error :=
  { e with context := { e.context with fragment := some fragment } }

def withColumn (e : Error) (column : String) : Error :=
  { e with context := { e.context with column := some column } }

def withSuggestion (e : Error) (suggestion : String) : Error :=
  { e with context := { e.context with suggestions := e.context.suggestions ++ [suggestion] } }

def withSource (e : Error) (source : String) : Error :=
  { e with source := some source }

/-- The fragment is named unless the context names one already. -/
def inFragment (e : Error) (fragment : String) : Error :=
  if e.context.fragment.isNone then e.withFragment fragment else e

end Error

/-! ## Failures -/

/-- A broken promise of the caller: an argument that was never passed, or
a record type that was never registered. -/
inductive Fault where
  | missingArgument (index : Nat)
  | unissuedModel (index : Nat)
deriving DecidableEq, Repr

/-- An operation is refused with an error, or cannot go on at all. -/
inductive Failure where
  | refused (e : Error)
  | broken (f : Fault)
deriving DecidableEq, Repr

namespace Failure

/-- The failure of a fresh error. -/
def of (cause : Cause) : Failure := .refused { cause }

/-- A change to the error of a refusal; faults pass unchanged. -/
def map (change : Error → Error) : Failure → Failure
  | .refused e => .refused (change e)
  | .broken f => .broken f

end Failure

end Criteria
