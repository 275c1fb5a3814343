/-
The program. It fetches the files that a command reads, runs the command on them, and
stores those that the command has written.
-/
import ServiceSchema.CommandLine.Usage
import ServiceSchema.Shell.Run

namespace ServiceSchema.CommandLine

/-- The variables of the program's environment that commands look at. -/
def fetchEnvironment : IO Environment := do
  let names := [Config.outDirVariable, Config.compilerVariable]
  let values ← names.mapM fun name => do return (name, ← IO.getEnv name)
  return fun name => (values.lookup name).bind id

/-- The file system as far as it holds the given files; those that cannot be read are
left out. -/
def fetchFiles (paths : List String) : IO FileSystem := do
  let dir := (← IO.currentDir).toString
  let root : FileSystem := ⟨[], []⟩
  let start := { (root.makeDirs dir).2 with
    workingDir := (Path.parts dir).filter (!Path.isIdle ·) }
  paths.foldlM (fun fs (path : String) => do
    match ← (IO.FS.readBinFile path).toBaseIO with
    | .error _ => return fs
    | .ok content =>
      let fs := (fs.makeDirs ((Path.parent? path).getD "")).2
      match fs.write path content with
      | .ok fs => return fs
      | .error _ => return fs) start

/-- Stores a file, in directories that are made if they are missing. -/
def storeFile (place : Location) (content : ByteArray) : IO Unit := do
  IO.FS.createDirAll ("/" ++ "/".intercalate place.dropLast)
  IO.FS.writeBinFile ("/" ++ "/".intercalate place) content

/-- Runs a command and gives the status to end with. -/
def perform (command : Command) : IO UInt32 := do
  let files ← fetchFiles command.inputs
  let outcome := run ⟨files, ← fetchEnvironment, Shell.host⟩ command
  (outcome.written files).forM fun (place, content) => storeFile place content
  IO.print outcome.stdout
  match outcome.failure with
  | some error => IO.eprintln ("Error: " ++ error.message)
  | none => pure ()
  return outcome.status

end ServiceSchema.CommandLine

/-- Runs the command that the arguments name. -/
def main (args : List String) : IO UInt32 :=
  match ServiceSchema.CommandLine.parse args with
  | .ok command => ServiceSchema.CommandLine.perform command
  | .error error => do
    if error.isRequest then IO.print error.message else IO.eprint error.message
    return error.status
