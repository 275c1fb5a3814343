/-
Loading the settings of a run from files in YAML, TOML or JSON.
-/
import ServiceSchema.Files.FileSystem
import ServiceSchema.Files.Format
import ServiceSchema.Format.Config

namespace ServiceSchema

inductive ConfigError where
  /-- The file cannot be read as text. -/
  | io (path : String)
  | unsupportedFormat (path extension : String)
  | parse (path : String) (error : DecodeError)
deriving DecidableEq, Repr

namespace ConfigError

def message : ConfigError → String
  | .io path => "failed to read config " ++ path
  | .unsupportedFormat path extension =>
    "unsupported config format `" ++ extension ++ "` for " ++ path
      ++ " (expected yaml, yml, toml or json)"
  | .parse path error => "invalid config " ++ path ++ ": " ++ error.message?.getD "not well formed"

end ConfigError

namespace Config

/-- Loads the settings in a file, the name of which tells its notation. -/
def load (fs : FileSystem) (path : String) : Except ConfigError Config :=
  match fs.readText? path with
  | none => .error (.io path)
  | some text =>
    match FileFormat.ofExtension? (extensionOf path) with
    | none => .error (.unsupportedFormat path (extensionOf path))
    | some format => (format.decode decode text).mapError (.parse path)

/-- The settings of a run: those of a file, if one is given, as the environment changes
them. -/
def ofFile (fs : FileSystem) (env : Environment) (path : Option String) :
    Except ConfigError Config := do
  let config ← match path with
    | some path => load fs path
    | none => .ok {}
  return config.applyEnvironment env

end Config

end ServiceSchema
