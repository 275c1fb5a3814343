/-
What the program says about itself: how it is used, why arguments are not a command,
and with which status it ends.
-/
import ServiceSchema.CommandLine.Run

namespace ServiceSchema.CommandLine

def programName : String := "service-schema"

def programVersion : String := "0.1.0"

/-- How the program is used. -/
def usage : String :=
  "\n".intercalate
    ["Derive proto3 schemas from handler manifests",
      "",
      "Usage: " ++ programName ++ " <COMMAND> [OPTIONS]",
      "",
      "Commands:",
      "  generate   Generate the schema file for a manifest",
      "  describe   Print handlers and discovered records as JSON",
      "  help       Print this text",
      "",
      "Options:",
      "  -m, --manifest <FILE>   Service manifest (YAML or JSON)",
      "  -c, --config <FILE>     Generator config file (YAML, TOML or JSON)",
      "  -o, --out <DIR>         Output directory; overrides config and environment",
      "      --layout <LAYOUT>   name-first or type-first; overrides the config",
      "      --dry-run           Print the schema instead of writing it",
      "      --compile           Run the schema compiler on the written file",
      "  -h, --help              Print this text",
      "  -V, --version           Print the version",
      ""]

namespace UsageError

/-- Whether the arguments ask for a text, and so are no mistake. -/
def isRequest : UsageError → Bool
  | .help | .version => true
  | _ => false

def message : UsageError → String
  | .help | .noCommand => usage
  | .version => programName ++ " " ++ programVersion ++ "\n"
  | .unknownCommand => "error: unknown command\n"
  | .unknownArgument => "error: unexpected argument\n"
  | .missingArgument => "error: a manifest is required\n"
  | .badValue => "error: an option has no value, or not one of those allowed\n"
  | .unwantedValue => "error: an option that takes no value is given one\n"
  | .conflict => "error: options are given twice, or exclude each other\n"

def status (e : UsageError) : UInt32 := if e.isRequest then 0 else 2

end UsageError

/-- The paths of the files that a command reads. -/
def Command.inputs : Command → List String
  | .generate manifest config _ _ _ _ => manifest :: config.toList
  | .describe manifest config => manifest :: config.toList

/-- The status with which the program ends after a command. -/
def Outcome.status (o : Outcome) : UInt32 := if o.failure.isSome then 1 else 0

/-- The files that a command has written: those that are new or differ. -/
def Outcome.written (o : Outcome) (before : FileSystem) : List (Location × ByteArray) :=
  o.files.entries.filterMap fun (place, entry) =>
    match entry with
    | .file content => if before.entry? place = some entry then none else some (place, content)
    | .directory => none

end ServiceSchema.CommandLine
