/-
Loading manifests from files in YAML or JSON.
-/
import ServiceSchema.Files.FileSystem
import ServiceSchema.Files.Format
import ServiceSchema.Format.Manifest

namespace ServiceSchema.Manifest

def formats : List FileFormat := [.yaml, .json]

/-- Reads a manifest from a text. -/
def parse (format : FileFormat) (text : String) : Except ManifestError Manifest :=
  (format.decode decode text).mapError .parse

/-- Loads the manifest in a file, the name of which tells its notation. -/
def load (fs : FileSystem) (path : String) : Except ManifestError Manifest :=
  match fs.readText? path with
  | none => .error (.io path)
  | some text =>
    match (FileFormat.ofExtension? (extensionOf path)).filter (· ∈ formats) with
    | none => .error (.unsupportedFormat path (extensionOf path))
    | some format => parse format text

end ServiceSchema.Manifest
