/-
Paths of files, as texts. A path is cut at its slashes; empty parts and single
points between them say nothing, save a point at the very front.
-/
namespace ServiceSchema.Path

/-- The parts of a text between slashes. -/
def cutAtSlashes (cs : List Char) : List (List Char) :=
  match cs with
  | [] => [[]]
  | c :: rest =>
    if c = '/' then [] :: cutAtSlashes rest
    else match cutAtSlashes rest with
      | [] => [[c]]
      | part :: more => (c :: part) :: more

/-- The parts of a path, empty ones and points among them. -/
def parts (path : String) : List String :=
  (cutAtSlashes path.toList).map String.ofList

/-- Whether a part says nothing. -/
def isIdle (part : String) : Bool := part = "" || part = "."

/-- The front of a path that is kept whatever is taken off its end: the slash of an
absolute path, or the point of one that starts with it. -/
def anchor (path : String) : String :=
  match path.toList with
  | '/' :: _ => "/"
  | ['.'] | '.' :: '/' :: _ => "."
  | _ => ""

/-- The parts behind the anchor, in reverse, without idle ones at the end. -/
def backwards (path : String) : List String :=
  ((parts (String.ofList (path.toList.drop (anchor path).length))).reverse).dropWhile isIdle

/-- The path without its last part; a bare anchor has only the empty path above it. -/
def parent? (path : String) : Option String :=
  match backwards path with
  | _ :: above =>
    some (anchor path ++ "/".intercalate (above.dropWhile isIdle).reverse)
  | [] => if anchor path = "." then some "" else none

/-- The name of the file at the end of a path, if it ends in one. -/
def fileName? (path : String) : Option String :=
  match backwards path with
  | name :: _ => if name = ".." then none else some name
  | [] => none

/-- What follows the last point of the file's name, which does not start with it. -/
def extension? (path : String) : Option String := do
  let name ← fileName? path
  let backwards := name.toList.reverse
  let ending := backwards.takeWhile (· != '.')
  match backwards.drop ending.length with
  | _ :: _ :: _ => some (String.ofList ending.reverse)
  | _ => none

/-- A path below a directory; an absolute one stands for itself. -/
def join (dir path : String) : String :=
  if anchor path = "/" then path
  else if dir = "" || dir.toList.getLast? = some '/' then dir ++ path
  else dir ++ "/" ++ path

end ServiceSchema.Path
