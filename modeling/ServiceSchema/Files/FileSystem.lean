/-
File systems as values: a table of entries by their absolute names, and a working
directory from which relative paths are followed. There are no links, so a path
leads to one place at most.
-/
import ServiceSchema.Files.Path

namespace ServiceSchema

/-- What stands under a name. -/
inductive Entry where
  | file (content : ByteArray)
  | directory

instance : DecidableEq Entry
  | .file a, .file b => @decidable_of_iff _ (a = b) (by simp) (ByteArray.instDecidableEq a b)
  | .directory, .directory => isTrue rfl
  | .file _, .directory => isFalse nofun
  | .directory, .file _ => isFalse nofun

/-- The names on the way from the root to an entry. -/
abbrev Location := List String

structure FileSystem where
  entries : List (Location × Entry)
  workingDir : Location
deriving DecidableEq

/-- Why a file or directory cannot be used. -/
inductive FileError where
  | notFound
  | notDirectory
  | isDirectory
  | exists
  | badName
deriving DecidableEq, Repr

namespace FileSystem

/-- The entry at a location; the root is always there. -/
def entry? (fs : FileSystem) (place : Location) : Option Entry :=
  if place = [] then some .directory else fs.entries.lookup place

/-- Puts an entry at a location, in place of the one there. -/
def put (fs : FileSystem) (place : Location) (entry : Entry) : FileSystem :=
  { fs with entries := (place, entry) :: fs.entries.filter (·.1 ≠ place) }

/-! ## Following paths -/

/-- The length from which a name is too long. -/
def nameLimit : Nat := 256

/-- The length from which a path is too long. -/
def pathLimit : Nat := 4096

/-- One step into a directory. -/
def enter (fs : FileSystem) (dir : Location) (name : String) : Except FileError Location :=
  if name = "" || name = "." then .ok dir
  else if name = ".." then .ok dir.dropLast
  else if nameLimit ≤ name.utf8ByteSize then .error .badName
  else match fs.entry? (dir ++ [name]) with
    | some .directory => .ok (dir ++ [name])
    | some (.file _) => .error .notDirectory
    | none => .error .notFound

/-- The directory to which parts of a path lead. -/
def walk (fs : FileSystem) (start : Location) (parts : List String) : Except FileError Location :=
  parts.foldlM fs.enter start

/-- The directory and the name in it to which a path leads, and whether the path goes
on after the name. The name is empty, or points, when the path ends in points. -/
def locate (fs : FileSystem) (path : String) : Except FileError (Location × String × Bool) := do
  if path = "" then throw .notFound
  if path.toList.contains '\x00' || pathLimit ≤ path.utf8ByteSize then throw .badName
  let start := if Path.anchor path = "/" then [] else fs.workingDir
  let backwards := (Path.parts path).reverse
  let closed := backwards.head? = some ""
  match backwards.dropWhile (· = "") with
  | [] => return ([], "", closed)
  | name :: above =>
    let dir ← fs.walk start above.reverse
    return (dir, name, closed)

/-- The entry to which a path leads. -/
def find (fs : FileSystem) (path : String) : Except FileError Entry := do
  let (dir, name, closed) ← fs.locate path
  if Path.isIdle name || name = ".." then return .directory
  if nameLimit ≤ name.utf8ByteSize then throw .badName
  match fs.entry? (dir ++ [name]) with
  | some .directory => return .directory
  | some (.file content) => if closed then throw .notDirectory else return .file content
  | none => throw .notFound

def isDirectory (fs : FileSystem) (path : String) : Bool :=
  match fs.find path with
  | .ok .directory => true
  | _ => false

/-! ## Reading and writing -/

/-- The bytes of a file. -/
def read (fs : FileSystem) (path : String) : Except FileError ByteArray := do
  match ← fs.find path with
  | .file content => return content
  | .directory => throw .isDirectory

/-- The text of a file, which must be UTF-8. -/
def readText? (fs : FileSystem) (path : String) : Option String :=
  match fs.read path with
  | .ok content => String.fromUTF8? content
  | .error _ => none

/-- Makes one directory, in one that is there. -/
def makeDir (fs : FileSystem) (path : String) : Except FileError FileSystem := do
  let (dir, name, _) ← fs.locate path
  if Path.isIdle name || name = ".." then throw .exists
  if nameLimit ≤ name.utf8ByteSize then throw .badName
  match fs.entry? (dir ++ [name]) with
  | some _ => throw .exists
  | none => return fs.put (dir ++ [name]) .directory

/-- Makes one directory, which may be there already. -/
def ensureDir (fs : FileSystem) (path : String) : Except FileError FileSystem :=
  match fs.makeDir path with
  | .ok fs => .ok fs
  | .error e => if fs.isDirectory path then .ok fs else .error e

/-- Makes a directory and those above it, as far as they are missing, for a path of so
many parts. What has been made is there also when making the rest fails. -/
def makeDirsWithin : Nat → FileSystem → String → Except FileError Unit × FileSystem
  | 0, fs, _ => (.error .notFound, fs)
  | bound + 1, fs, path =>
    if path = "" then (.ok (), fs)
    else match fs.makeDir path with
      | .ok fs => (.ok (), fs)
      | .error .notFound =>
        match Path.parent? path with
        | none => (.error .notFound, fs)
        | some above =>
          match makeDirsWithin bound fs above with
          | (.error e, fs) => (.error e, fs)
          | (.ok (), fs) =>
            match fs.ensureDir path with
            | .ok fs => (.ok (), fs)
            | .error e => (.error e, fs)
      | .error e => (if fs.isDirectory path then .ok () else .error e, fs)

/-- Makes a directory and those above it, as far as they are missing. -/
def makeDirs (fs : FileSystem) (path : String) : Except FileError Unit × FileSystem :=
  makeDirsWithin (path.length + 1) fs path

/-- Writes a file, in place of the one there. Only the path can be wrong, and that shows before
the file is touched; that writing breaks off half-way is not described. -/
def write (fs : FileSystem) (path : String) (content : ByteArray) : Except FileError FileSystem := do
  let (dir, name, closed) ← fs.locate path
  if closed || Path.isIdle name || name = ".." then throw .isDirectory
  if nameLimit ≤ name.utf8ByteSize then throw .badName
  match fs.entry? (dir ++ [name]) with
  | some .directory => throw .isDirectory
  | _ => return fs.put (dir ++ [name]) (.file content)

end FileSystem

end ServiceSchema
