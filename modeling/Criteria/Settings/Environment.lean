/-!
# The environment

Settings by name, as a process finds them around it.
-/

namespace Criteria

structure Environment where
  settings : List (String × String) := []

namespace Environment

def get? (env : Environment) (key : String) : Option String := env.settings.lookup key

def contains (env : Environment) (key : String) : Bool := (env.get? key).isSome

def placeholderKey : String := "RECORD_FILTER_PLACEHOLDER"

def quoteTablesKey : String := "RECORD_FILTER_QUOTE_TABLES"

def debugKey : String := "RECORD_FILTER_DEBUG"

def logLevelKey : String := "RECORD_FILTER_LOG_LEVEL"

def logFormatKey : String := "RECORD_FILTER_LOG_FORMAT"

/-- The settings that are looked at. -/
def keys : List String := [placeholderKey, quoteTablesKey, debugKey, logLevelKey, logFormatKey]

/-- Only the settings that are looked at. -/
def restricted (env : Environment) : Environment :=
  ⟨env.settings.filter fun s => keys.contains s.1⟩

end Environment

end Criteria
