/-
How a run is logged: from which level on, and in which format. Both are words that
may be written in any case and between blanks; other words stand for the defaults.
-/
import ServiceSchema.Config
import ServiceSchema.Text.LowerCase

namespace ServiceSchema

inductive LogLevel where
  | trace | debug | info | warn | error
deriving DecidableEq, Repr

inductive LogFormat where
  | json | pretty
deriving DecidableEq, Repr

namespace LogFormat

/-- The format of a word. -/
def parse (s : String) : LogFormat :=
  if Text.lower (Text.trim s) = "json" then .json else .pretty

end LogFormat

structure LogConfig where
  /-- The word for the level, as it was given. -/
  levelName : String := "info"
  format : LogFormat := .pretty
  /-- Whether entries tell where they come from. -/
  includeLocation : Bool := false
deriving DecidableEq, Repr

namespace LogConfig

def levelVariable : String := "PROTOROOT_LOG_LEVEL"
def formatVariable : String := "PROTOROOT_LOG_FORMAT"

/-- The settings of an environment. -/
def ofEnvironment (env : Environment) : LogConfig :=
  { levelName := (env levelVariable).getD "info"
    format := LogFormat.parse ((env formatVariable).getD "") }

/-- The level of the settings' word. -/
def level (c : LogConfig) : LogLevel :=
  match Text.lower (Text.trim c.levelName) with
  | "trace" => .trace
  | "debug" => .debug
  | "warn" => .warn
  | "error" => .error
  | _ => .info

end LogConfig

end ServiceSchema
