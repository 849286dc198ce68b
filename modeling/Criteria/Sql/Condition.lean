import Criteria.Settings.Config
import Criteria.Sql.Identifier

/-!
# Conditions

The condition of a statement before it is written out: tests of columns,
negations, and parts joined by one connective. Placeholders are numbers
here and columns are kept apart from the table they belong to, so a
condition is the same under every configuration; the style of the
placeholders and the quoting of tables come in with `Condition.text`.

Parts are joined only where there are two or more of them, and each is
put in parentheses then, whatever it is. A part on its own stands bare,
and a negation always has parentheses.
-/

namespace Criteria.Sql

/-! ## Connectives and comparisons -/

inductive Connective where
  | all
  | any
deriving DecidableEq, Repr

def Connective.separator : Connective → String
  | .all => " AND "
  | .any => " OR "

inductive Comparison where
  | equal
  | less
  | lessOrEqual
  | greater
  | greaterOrEqual
deriving DecidableEq, Repr

def Comparison.symbol : Comparison → String
  | .equal => "="
  | .less => "<"
  | .lessOrEqual => "<="
  | .greater => ">"
  | .greaterOrEqual => ">="

/-! ## Tests -/

/-- What a test asks of its column; the numbers are placeholders. -/
inductive TestForm where
  | isNull
  | between (start finish : Nat)
  | inList (n : Nat)
  | like (n : Nat)
  | compare (c : Comparison) (n : Nat)
deriving DecidableEq, Repr

/-- A test of one column under the name that its table goes by, or its
negation. -/
structure Test where
  label : String
  column : String
  negated : Bool
  form : TestForm
deriving DecidableEq, Repr

/-- A negated comparison is negated as a whole; the other forms have a
negation of their own. -/
def Test.text (config : Config) (t : Test) : String :=
  let column := qualified config.quoteTables t.label t.column
  let mark := config.placeholders.placeholder
  let no := if t.negated then "NOT " else ""
  match t.form with
  | .isNull => column ++ " IS " ++ no ++ "NULL"
  | .between a b => column ++ " " ++ no ++ "BETWEEN " ++ mark a ++ " AND " ++ mark b
  | .inList n => column ++ " " ++ no ++ "IN (" ++ mark n ++ ")"
  | .like n => column ++ " " ++ no ++ "LIKE " ++ mark n
  | .compare c n =>
    let plain := column ++ " " ++ c.symbol ++ " " ++ mark n
    if t.negated then "NOT (" ++ plain ++ ")" else plain

/-! ## Conditions -/

inductive Condition where
  /-- A condition written elsewhere, with `count` placeholders of its own
  after the first `bound` ones. -/
  | given (text : String) (bound count : Nat)
  | test (t : Test)
  | not (c : Condition)
  | joined (connective : Connective) (parts : List Condition)

namespace Condition

def parenthesized (s : String) : String := "(" ++ s ++ ")"

mutual

def text (config : Config) : Condition → String
  | .given s bound count => config.placeholders.renumber bound count s
  | .test t => t.text config
  | .not c => "NOT " ++ parenthesized (text config c)
  | .joined connective parts =>
    connective.separator.intercalate (partTexts config parts)
termination_by structural c => c

def partTexts (config : Config) : List Condition → List String
  | [] => []
  | c :: rest => parenthesized (text config c) :: partTexts config rest
termination_by structural l => l

end

/-- The parts as one condition, if there are any. -/
def combine (connective : Connective) : List Condition → Option Condition
  | [] => none
  | [part] => some part
  | parts => some (.joined connective parts)

def negateIf (negated : Bool) (c : Condition) : Condition :=
  if negated then .not c else c

end Condition

end Criteria.Sql
