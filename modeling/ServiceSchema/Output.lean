/-
Writing a schema to its file: a file in the output directory, which is named for
the service.
-/
import ServiceSchema.Files.FileSystem
import ServiceSchema.Generation.Error
import ServiceSchema.Text.LowerCase

namespace ServiceSchema

/-- The name of the file for a service's schema: in lower case, with an underscore for
each space. -/
def schemaFileName (service : String) : String :=
  String.ofList ((Text.lower service).toList.map fun c => if c = ' ' then '_' else c) ++ ".proto"

/-- Writes a schema below a directory, which is made if it is missing. The answer is
the path of the file; the file system is the one left behind, also on failure. -/
def writeSchema (fs : FileSystem) (dir service text : String) :
    Except GenerationError String × FileSystem :=
  match fs.makeDirs dir with
  | (.error _, fs) => (.error (.io dir), fs)
  | (.ok (), fs) =>
    let path := Path.join dir (schemaFileName service)
    match fs.write path text.toUTF8 with
    | .ok fs => (.ok path, fs)
    | .error _ => (.error (.io path), fs)

end ServiceSchema
