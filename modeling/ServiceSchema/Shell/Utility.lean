/-
The small programs that scripts are made of. Each takes its arguments, its input and
the files, and gives its output, its errors, a status, and the files as it leaves
them.
-/
import ServiceSchema.Files.FileSystem

namespace ServiceSchema.Shell

abbrev Bytes := List UInt8

def bytesOf (s : String) : Bytes := s.toUTF8.toList

/-- What a program has done. -/
structure Effect where
  output : Bytes := []
  errors : Bytes := []
  status : Nat := 0
  files : FileSystem
  milliseconds : Nat := 0

/-! ## Escapes -/

def octal? (c : Char) : Option Nat :=
  if '0' ≤ c && c ≤ '7' then some (c.toNat - '0'.toNat) else none

/-- Reads up to so many octal digits. -/
def readOctal : Nat → Nat → List Char → Nat × List Char
  | 0, n, cs => (n, cs)
  | limit + 1, n, c :: rest =>
    match octal? c with
    | some d => readOctal limit (8 * n + d) rest
    | none => (n, c :: rest)
  | _ + 1, n, [] => (n, [])

/-- What a backslash and a letter stand for. -/
def letter? : Char → Option UInt8
  | 'a' => some 7
  | 'b' => some 8
  | 'f' => some 12
  | 'n' => some 10
  | 'r' => some 13
  | 't' => some 9
  | 'v' => some 11
  | '\\' => some 92
  | _ => none

/-- Reads an escape after its backslash. In texts to be printed an octal number starts
with a zero; in formats it need not. -/
def readEscape (inFormat : Bool) (cs : List Char) : Bytes × List Char :=
  match cs with
  | [] => ([92], [])
  | c :: rest =>
    match letter? c, octal? c with
    | some b, _ => ([b], rest)
    | none, some _ =>
      if inFormat then
        let (n, rest) := readOctal 3 0 cs
        ([UInt8.ofNat n], rest)
      else if c = '0' then
        let (n, rest) := readOctal 3 0 rest
        ([UInt8.ofNat n], rest)
      else (92 :: bytesOf c.toString, rest)
    | none, none => (92 :: bytesOf c.toString, rest)

/-- A text with its escapes replaced; `\c` ends all output. -/
def expandEscapes : Nat → List Char → Bytes × Bool
  | 0, _ | _, [] => ([], false)
  | _ + 1, '\\' :: 'c' :: _ => ([], true)
  | fuel + 1, '\\' :: rest =>
    let (bytes, rest) := readEscape false rest
    let (more, stop) := expandEscapes fuel rest
    (bytes ++ more, stop)
  | fuel + 1, c :: rest =>
    let (more, stop) := expandEscapes fuel rest
    (bytesOf c.toString ++ more, stop)

def echo (args : List String) : Bytes :=
  let (args, newline) := match args with
    | "-n" :: rest => (rest, false)
    | args => (args, true)
  let text := " ".intercalate args
  let (bytes, stop) := expandEscapes (text.length + 1) text.toList
  if newline && !stop then bytes ++ [10] else bytes

/-- Prints by a format once; the arguments left over are returned. -/
def formatOnce : Nat → List Char → List String → Bytes × List String
  | 0, _, args | _, [], args => ([], args)
  | fuel + 1, '%' :: c :: rest, args =>
    let arg := args.head?.getD ""
    let go := fun (bytes : Bytes) (args : List String) =>
      let (more, args) := formatOnce fuel rest args
      (bytes ++ more, args)
    match c with
    | '%' => go [37] args
    | 's' => go (bytesOf arg) (args.drop 1)
    | 'b' => go (expandEscapes (arg.length + 1) arg.toList).1 (args.drop 1)
    | 'c' => go (bytesOf (String.ofList (arg.toList.take 1))) (args.drop 1)
    | 'd' | 'i' | 'u' => go (bytesOf (if arg.isEmpty then "0" else arg)) (args.drop 1)
    | c => go (37 :: bytesOf c.toString) args
  | fuel + 1, '\\' :: rest, args =>
    let (bytes, rest) := readEscape true rest
    let (more, args) := formatOnce fuel rest args
    (bytes ++ more, args)
  | fuel + 1, c :: rest, args =>
    let (more, args) := formatOnce fuel rest args
    (bytesOf c.toString ++ more, args)

/-- Prints by a format, again and again while it takes arguments and some are left. -/
def format : Nat → String → List String → Bytes
  | 0, _, _ => []
  | fuel + 1, pattern, args =>
    let (bytes, left) := formatOnce (pattern.length + 1) pattern.toList args
    if left.isEmpty || left.length = args.length then bytes else bytes ++ format fuel pattern left

/-! ## Files -/

/-- The content of a file, or of a device that is empty. -/
def contentOf (files : FileSystem) (path : String) : Except FileError Bytes :=
  if path = "/dev/null" then .ok [] else (files.read path).map ByteArray.toList

def complaint (e : FileError) : String :=
  match e with
  | .notFound => "No such file or directory"
  | .notDirectory => "Not a directory"
  | .isDirectory => "Is a directory"
  | .exists => "File exists"
  | .badName => "File name too long"

def failing (files : FileSystem) (message : String) (status : Nat := 1) : Effect :=
  { errors := bytesOf (message ++ "\n"), status, files }

/-- The files one after the other; a hyphen stands for the input. -/
def concatenate (files : FileSystem) (input : Bytes) (paths : List String) : Effect :=
  paths.foldl (fun e path =>
    if path = "-" then { e with output := e.output ++ input }
    else match contentOf files path with
      | .ok bytes => { e with output := e.output ++ bytes }
      | .error error =>
        { e with errors := e.errors ++ bytesOf ("cat: " ++ path ++ ": " ++ complaint error ++ "\n")
                 status := 1 }) { files }

/-- Bytes cut into lines, each with its line feed. -/
def linesOf : Bytes → List Bytes
  | [] => []
  | b :: rest =>
    if b = 10 then [b] :: linesOf rest
    else match linesOf rest with
      | [] => [[b]]
      | line :: more => (b :: line) :: more

/-- Applies a function to the file that is named, or to the input when none is. -/
def onFile (files : FileSystem) (input : Bytes) (command : String) (paths : List String)
    (f : Bytes → Bytes) : Effect :=
  match paths with
  | path :: _ =>
    match contentOf files path with
    | .ok bytes => { output := f bytes, files }
    | .error e =>
      failing files (command ++ ": cannot open '" ++ path ++ "' for reading: " ++ complaint e) 1
  | [] => { output := f input, files }

def firstLines (count : Nat) (bytes : Bytes) : Bytes := ((linesOf bytes).take count).flatten

def lastLines (count : Nat) (bytes : Bytes) : Bytes :=
  let lines := linesOf bytes
  (lines.drop (lines.length - count)).flatten

/-- The number in an option such as `-3`. -/
def hyphenNumber? (s : String) : Option Nat :=
  match s.toList with
  | '-' :: cs => (String.ofList cs).toNat?
  | _ => none

/-- The first bytes or lines of a file or of the input. -/
def head (files : FileSystem) (input : Bytes) : List String → Effect
  | "-c" :: n :: paths =>
    let count := n.toNat?.getD 0
    if paths = ["/dev/zero"] then { output := List.replicate count 0, files }
    else onFile files input "head" paths (·.take count)
  | "-n" :: n :: paths => onFile files input "head" paths (firstLines (n.toNat?.getD 0))
  | arg :: paths =>
    match hyphenNumber? arg with
    | some n => onFile files input "head" paths (firstLines n)
    | none => onFile files input "head" (arg :: paths) (firstLines 10)
  | [] => onFile files input "head" [] (firstLines 10)

/-- The last bytes or lines of a file or of the input. -/
def tail (files : FileSystem) (input : Bytes) : List String → Effect
  | "-c" :: n :: paths =>
    onFile files input "tail" paths fun bytes => bytes.drop (bytes.length - n.toNat?.getD 0)
  | "-n" :: n :: paths => onFile files input "tail" paths (lastLines (n.toNat?.getD 0))
  | arg :: paths =>
    match hyphenNumber? arg with
    | some n => onFile files input "tail" paths (lastLines n)
    | none => onFile files input "tail" (arg :: paths) (lastLines 10)
  | [] => onFile files input "tail" [] (lastLines 10)

/-- Counts something in a file or in the input; a file is named behind its count. -/
def count (files : FileSystem) (input : Bytes) (paths : List String) (f : Bytes → Nat) : Effect :=
  let name := match paths with
    | path :: _ => " " ++ path
    | [] => ""
  onFile files input "wc" paths fun bytes => bytesOf (toString (f bytes) ++ name ++ "\n")

/-- The names in a directory, sorted. -/
def namesIn (files : FileSystem) (dir : Location) : List String :=
  let names := files.entries.filterMap fun (place, _) =>
    if place.dropLast = dir then place.getLast? else none
  (names.filter (!·.startsWith ".")).mergeSort fun a b => decide (a ≤ b)

/-- Lists a directory, or names a file. -/
def list (files : FileSystem) (path : String) : Effect :=
  match files.find path, files.walk files.workingDir (Path.parts path) with
  | .ok .directory, .ok dir =>
    { output := bytesOf (String.join ((namesIn files dir).map (· ++ "\n"))), files }
  | .ok _, _ => { output := bytesOf (path ++ "\n"), files }
  | .error e, _ => failing files ("ls: cannot access '" ++ path ++ "': " ++ complaint e) 2

/-- Takes a file away. -/
def remove (files : FileSystem) (path : String) : Except FileError FileSystem := do
  let _ ← files.read path
  let (dir, name, _) ← files.locate path
  return { files with entries := files.entries.filter (·.1 ≠ dir ++ [name]) }

/-- The path under which a file is put at a target: in it, if it is a directory. -/
def targetPath (files : FileSystem) (source target : String) : String :=
  if files.isDirectory target then Path.join target ((Path.fileName? source).getD source) else target

/-- Copies a file, and takes the source away if it is to be moved. -/
def copy (files : FileSystem) (moving : Bool) (source target : String) : Effect :=
  let done := do
    let after ← files.write (targetPath files source target) (← files.read source)
    if moving then remove after source else return after
  match done with
  | .ok files => { files }
  | .error e =>
    failing files ((if moving then "mv" else "cp") ++ ": cannot stat '" ++ source ++ "': " ++ complaint e)

/-- Takes files away; those that are missing may be passed over. -/
def removeAll (files : FileSystem) (force : Bool) (paths : List String) : Effect :=
  paths.foldl (fun e path =>
    match remove e.files path with
    | .ok files => { e with files }
    | .error error =>
      if force then e
      else { e with errors := e.errors ++
                      bytesOf ("rm: cannot remove '" ++ path ++ "': " ++ complaint error ++ "\n")
                    status := 1 }) { files }

/-- Copies the input to files and to the output. -/
def tee (files : FileSystem) (input : Bytes) (paths : List String) : Effect :=
  { output := input
    files := paths.foldl (fun files path =>
      (files.write path (ByteArray.mk input.toArray)).toOption.getD files) files }

/-! ## Sets of bytes -/

/-- The bytes that a set of characters names: ranges, escapes, and the characters
themselves. -/
def byteSet : Nat → List Char → Bytes
  | 0, _ | _, [] => []
  | fuel + 1, '\\' :: rest =>
    let (bytes, rest) := readEscape true rest
    bytes ++ byteSet fuel rest
  | fuel + 1, c :: '-' :: d :: rest =>
    (List.range (d.toNat + 1 - c.toNat)).map (fun i => UInt8.ofNat (c.toNat + i)) ++ byteSet fuel rest
  | fuel + 1, c :: rest => bytesOf c.toString ++ byteSet fuel rest

def byteSetOf (s : String) : Bytes := byteSet (s.length + 1) s.toList

/-- Replaces each byte of one set by that in the same place of the other, the last of
which stands for all further ones. -/
def replaceBytes (source target : Bytes) (input : Bytes) : Bytes :=
  input.map fun b =>
    match source.findIdx? (· == b) with
    | some i => (target[i]?).getD (target.getLast?.getD b)
    | none => b

/-! ## Tests -/

def holds (files : FileSystem) : List String → Bool
  | ["!", a] => a.isEmpty
  | "!" :: rest => !holds files rest
  | [a] => !a.isEmpty
  | ["-n", a] => !a.isEmpty
  | ["-z", a] => a.isEmpty
  | ["-e", path] => (files.find path).isOk
  | ["-d", path] => files.isDirectory path
  | ["-f", path] | ["-r", path] => (files.read path).isOk
  | ["-s", path] => ((files.read path).toOption.map fun content => decide (0 < content.size)).getD false
  | [a, "=", b] => a = b
  | [a, "!=", b] => a ≠ b
  | [a, "-eq", b] => a.toInt? = b.toInt?
  | [a, "-ne", b] => a.toInt? ≠ b.toInt?
  | [a, "-lt", b] => decide (a.toInt?.getD 0 < b.toInt?.getD 0)
  | [a, "-le", b] => decide (a.toInt?.getD 0 ≤ b.toInt?.getD 0)
  | [a, "-gt", b] => decide (b.toInt?.getD 0 < a.toInt?.getD 0)
  | [a, "-ge", b] => decide (b.toInt?.getD 0 ≤ a.toInt?.getD 0)
  | _ => false

/-- The milliseconds that a decimal number of seconds is. -/
def milliseconds (s : String) : Nat :=
  let whole := s.toList.takeWhile Char.isDigit
  let fraction := ((s.toList.drop (whole.length + 1)).takeWhile Char.isDigit ++ ['0', '0', '0']).take 3
  (String.ofList (whole ++ fraction)).toNat?.getD 0

/-- Writes one file after the other, as far as that works. -/
def touch (files : FileSystem) (paths : List String) : FileSystem :=
  paths.foldl (fun files path =>
    if (files.find path).isOk then files
    else (files.write path ByteArray.empty).toOption.getD files) files

/-- The numbers of a range, each on a line. -/
def numbers (first last : Nat) : Bytes :=
  (List.range (last + 1 - first)).flatMap fun i => bytesOf (toString (first + i) ++ "\n")

/-- The last part of a path. -/
def baseName (path : String) : String := (Path.fileName? path).getD path

/-! ## Programs by name -/

/-- Runs a program, if there is one of the name. -/
def utility? (files : FileSystem) (input : Bytes) (name : String) (args : List String) :
    Option Effect :=
  match name, args with
  | "echo", args => some { output := echo args, files }
  | "printf", pattern :: args => some { output := format (args.length + 1) pattern args, files }
  | "true", _ | ":", _ => some { files }
  | "false", _ => some { status := 1, files }
  | "cat", [] => some { output := input, files }
  | "cat", paths => some (concatenate files input paths)
  | "head", args => some (head files input args)
  | "tail", args => some (tail files input args)
  | "tr", ["-d", set] =>
    some { output := input.filter fun b => !(byteSetOf set).contains b, files }
  | "tr", [source, target] =>
    some { output := replaceBytes (byteSetOf source) (byteSetOf target) input, files }
  | "wc", "-c" :: paths => some (count files input paths List.length)
  | "wc", "-l" :: paths => some (count files input paths (List.count 10))
  | "tee", paths => some (tee files input paths)
  | "seq", [last] => some { output := numbers 1 (last.toNat?.getD 0), files }
  | "seq", [first, last] =>
    some { output := numbers (first.toNat?.getD 0) (last.toNat?.getD 0), files }
  | "ls", [] | "ls", ["-1"] => some (list files ".")
  | "ls", ["-1", path] | "ls", [path] => some (list files path)
  | "test", args => some { status := if holds files args then 0 else 1, files }
  | "[", args => some { status := if holds files args.dropLast then 0 else 1, files }
  | "sleep", [time] => some { files, milliseconds := milliseconds time }
  | "touch", paths => some { files := touch files paths }
  | "mkdir", "-p" :: paths | "mkdir", paths =>
    some { files := paths.foldl (fun files path => (files.makeDirs path).2) files }
  | "cp", [source, target] => some (copy files false source target)
  | "mv", [source, target] => some (copy files true source target)
  | "rm", "-f" :: paths => some (removeAll files true paths)
  | "rm", paths => some (removeAll files false paths)
  | "basename", [path] => some { output := bytesOf (baseName path ++ "\n"), files }
  | "basename", [path, ending] =>
    let name := baseName path
    let bare := if name ≠ ending && name.endsWith ending then (name.dropEnd ending.length).toString else name
    some { output := bytesOf (bare ++ "\n"), files }
  | "dirname", [path] =>
    let dir := (Path.parent? path).getD path
    some { output := bytesOf ((if dir.isEmpty then "." else dir) ++ "\n"), files }
  | _, _ => none

end ServiceSchema.Shell
