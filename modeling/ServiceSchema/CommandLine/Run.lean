/-
Running the commands. Settings come from the configuration, then the environment,
then the options. Nothing is written before the schema is complete, and nothing at
all when it is only printed.
-/
import ServiceSchema.CommandLine.Arguments
import ServiceSchema.Compiler
import ServiceSchema.Config.Load
import ServiceSchema.Format.Record
import ServiceSchema.Manifest.Load
import ServiceSchema.Manifest.Resolve
import ServiceSchema.Output

namespace ServiceSchema.CommandLine

inductive RunError where
  | config (error : ConfigError)
  | manifest (error : ManifestError)
  /-- The manifest can be read, but not resolved. -/
  | resolve (path : String) (error : ManifestError)
  | generation (error : GenerationError)
deriving DecidableEq

def RunError.message : RunError → String
  | .config error => error.message
  | .manifest error => error.message
  | .resolve path error => "failed to resolve manifest " ++ path ++ ": " ++ error.message
  | .generation error => error.message

/-- What commands depend on: files, environment variables, and programs. -/
structure World where
  files : FileSystem
  environment : Environment
  host : Host

/-- What a command has done: what it has printed, whether it failed, and the files it
leaves. -/
structure Outcome where
  stdout : String := ""
  failure : Option RunError := none
  files : FileSystem

/-- The settings of a command. -/
def loadConfig (w : World) (path : Option String) : Except RunError Config :=
  (Config.ofFile w.files w.environment path).mapError .config

/-- The service of a manifest. -/
def loadService (w : World) (path : String) (known : WellKnownTypes) : Except RunError Service := do
  let manifest ← (Manifest.load w.files path).mapError .manifest
  (manifest.toService known).mapError (.resolve path)

/-! ## Generating -/

/-- The settings of a run, its service, and the schema. -/
structure Prepared where
  config : Config
  service : Service
  schema : String

/-- Works out the schema of a manifest; this writes nothing. -/
def prepare (w : World) (manifest : String) (config out : Option String)
    (layout : Option Layout) : Except RunError Prepared := do
  let config ← loadConfig w config
  let config := { config with
    outputDir := out.getD config.outputDir, layout := layout.getD config.layout }
  let service ← loadService w manifest config.knownTypes
  return { config, service, schema := service.schema config.knownTypes config.layout }

/-- Runs the compiler on a schema that has been written. -/
def compileWritten (w : World) (p : Prepared) (path : String) (files : FileSystem) : Outcome :=
  match (Compiler.ofConfig p.config.compiler).compile w.host files path with
  | (.error error, files) => { stdout := path ++ "\n", failure := some (.generation error), files }
  | (.ok output, files) => { stdout := path ++ "\n" ++ output.stdout, files }

def generate (w : World) (manifest : String) (config out : Option String)
    (layout : Option Layout) (dryRun compile : Bool) : Outcome :=
  match prepare w manifest config out layout with
  | .error error => { failure := some error, files := w.files }
  | .ok p =>
    if dryRun then { stdout := p.schema, files := w.files }
    else match writeSchema w.files p.config.outputDir p.service.info.name p.schema with
      | (.error error, files) => { failure := some (.generation error), files }
      | (.ok path, files) =>
        if compile then compileWritten w p path files
        else { stdout := path ++ "\n", files }

/-! ## Describing -/

def describeHandler (h : Handler) : Json :=
  .object [("name", .text h.name), ("method", h.method.toJson), ("route", .text h.route),
    ("request", .text h.request.name), ("response", .text h.response.name),
    ("permissions", .array (h.permissions.map .text))]

/-- A service as a document: its handlers and records. -/
def describeService (s : Service) : Json :=
  .object [("service", s.info.toJson), ("package", .text s.info.package),
    ("handlers", .array (s.handlers.map describeHandler)),
    ("records", .array (s.records.map Record.toJson))]

def describe (w : World) (manifest : String) (config : Option String) : Outcome :=
  let text : Except RunError String := do
    let config ← loadConfig w config
    let service ← loadService w manifest config.knownTypes
    return (describeService service).sorted.pretty ++ "\n"
  match text with
  | .error error => { failure := some error, files := w.files }
  | .ok text => { stdout := text, files := w.files }

/-- Runs a command. -/
def run (w : World) : Command → Outcome
  | .generate manifest config out layout dryRun compile =>
    generate w manifest config out layout dryRun compile
  | .describe manifest config => describe w manifest config

end ServiceSchema.CommandLine
