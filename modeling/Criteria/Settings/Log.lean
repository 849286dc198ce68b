import Criteria.Settings.Environment
import Criteria.Text.Case

/-!
# Log settings

What the environment asks of the log: how much of it, in which form, and
whether it asks for one at all. An unknown level counts as asked for, but
leaves the level where the debug switch puts it.
-/

namespace Criteria

inductive LogLevel where
  | trace
  | debug
  | info
  | warn
  | error
deriving DecidableEq, Repr

def LogLevel.name : LogLevel → String
  | .trace => "trace"
  | .debug => "debug"
  | .info => "info"
  | .warn => "warn"
  | .error => "error"

def LogLevel.ofName? (name : String) : Option LogLevel :=
  [LogLevel.trace, .debug, .info, .warn, .error].find? (·.name = name)

inductive LogFormat where
  | json
  | pretty
  | compact
deriving DecidableEq, Repr

def LogFormat.ofName (name : String) : LogFormat :=
  if name = "pretty" then .pretty else if name = "compact" then .compact else .json

structure LogSettings where
  debug : Bool
  explicitLevel : Bool
  level : LogLevel
  format : LogFormat
deriving DecidableEq, Repr

namespace LogSettings

def ofEnvironment (env : Environment) : LogSettings :=
  let setting key := (env.get? key).map Text.lower
  let debug := (setting Environment.debugKey).any (["true", "1", "yes"].contains ·)
  let level := setting Environment.logLevelKey
  { debug
    explicitLevel := level.isSome
    level := (level.bind LogLevel.ofName?).getD (if debug then .debug else .warn)
    format := ((setting Environment.logFormatKey).map LogFormat.ofName).getD .json }

def isRequested (s : LogSettings) : Bool := s.debug || s.explicitLevel

end LogSettings

end Criteria
