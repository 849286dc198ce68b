import Criteria.Error
import Criteria.Json
import Criteria.Settings.Environment
import Criteria.Sql.Placeholder
import Criteria.Text.Blank

/-!
# Configuration

How statements are written: the style of the placeholders and whether
tables and aliases are quoted. A configuration comes from the settings of
the environment, from JSON, or from the program.
-/

namespace Criteria

open Sql (PlaceholderStyle)

structure Config where
  placeholders : PlaceholderStyle := .question
  quoteTables : Bool := true
deriving DecidableEq, Repr

namespace Config

/-- Numbered placeholders, everything else as usual. -/
def postgres : Config := { placeholders := .dollar }

/-! ## From the environment -/

/-- A setting without the blanks around it, in small ASCII letters. -/
def settingWord (value : String) : String := (Text.trim value).toLower

def readPlaceholders (word : String) : Option PlaceholderStyle :=
  if word = "question" || word = "?" then some .question
  else if word = "dollar" || word = "postgres" || word = "postgresql" then some .dollar
  else none

def readSwitch (word : String) : Option Bool :=
  if word = "1" || word = "true" || word = "yes" || word = "on" then some true
  else if word = "0" || word = "false" || word = "no" || word = "off" then some false
  else none

/-- The value of a setting, `default` if it is not set. A value that
cannot be read is refused as it stands in the environment. -/
def readSetting {α : Type} (env : Environment) (key : String) (read : String → Option α)
    (default : α) : Except Failure α :=
  match env.get? key with
  | none => .ok default
  | some value =>
    match read (settingWord value) with
    | some a => .ok a
    | none => .error (.of (.invalidConfiguration key value))

def ofEnvironment (env : Environment) : Except Failure Config := do
  let placeholders ← readSetting env Environment.placeholderKey readPlaceholders .question
  let quoteTables ← readSetting env Environment.quoteTablesKey readSwitch true
  return { placeholders, quoteTables }

/-! ## From JSON -/

/-- The name of a style, alone or as the one field of an object with
nothing in it. -/
def placeholdersOfJson? : Json → Option PlaceholderStyle
  | .string "Question" => some .question
  | .string "Dollar" => some .dollar
  | .object [("Question", .null)] => some .question
  | .object [("Dollar", .null)] => some .dollar
  | _ => none

def switchOfJson? : Json → Option Bool
  | .bool b => some b
  | _ => none

/-- Both fields by name, or both in order. -/
def ofJson? : Json → Option Config
  | .array [style, quote] => do
    let placeholders ← placeholdersOfJson? style
    let quoteTables ← switchOfJson? quote
    return { placeholders, quoteTables }
  | .object fields => do
    let placeholders ← fields.lookup "placeholders" >>= placeholdersOfJson?
    let quoteTables ← fields.lookup "quote_tables" >>= switchOfJson?
    return { placeholders, quoteTables }
  | _ => none

end Config

end Criteria
