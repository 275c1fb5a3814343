/-
Running shell scripts. Words are expanded, commands run one after the other, and
what they write goes where their redirections say. A command that leaves the script
ends it.
-/
import ServiceSchema.Compiler
import ServiceSchema.Shell.Script
import ServiceSchema.Shell.Utility

namespace ServiceSchema.Shell

/-- Where a stream goes. -/
inductive Sink where
  | output
  | errors
  /-- To the next command of a pipeline. -/
  | pipe
  /-- To the end of a file. -/
  | file (path : String)
  | nowhere

structure Machine where
  files : FileSystem
  /-- The name of the script, and its arguments. -/
  name : String
  args : List String
  bindings : List (String × String) := []
  /-- Where output and errors go. -/
  outTo : Sink := .output
  errorsTo : Sink := .errors
  output : Bytes := []
  errors : Bytes := []
  piped : Bytes := []
  /-- The status of the last command. -/
  status : Nat := 0
  milliseconds : Nat := 0
  /-- The time from which on nothing is done. -/
  limit : Option Nat := none
  /-- How the script has ended, if it has. -/
  ended : Option Ending := none

/-! ## Expansion -/

/-- A word under expansion: its fields so far, and the one at hand, if there is one. -/
structure Fields where
  complete : List String := []
  current : Option (List Char) := none

namespace Fields

def add (f : Fields) (cs : List Char) : Fields := { f with current := some (f.current.getD [] ++ cs) }

/-- Ends the field at hand. -/
def cut (f : Fields) : Fields :=
  match f.current with
  | some cs => { complete := f.complete ++ [String.ofList cs] }
  | none => f

/-- Adds a text that is split at blanks. -/
def addSplit (f : Fields) (cs : List Char) : Fields :=
  cs.foldl (fun f c => if isBlank c || c = '\n' then f.cut else f.add [c]) f

/-- Adds texts that are fields of their own, save that the first and the last join what
stands beside them. -/
def addAll (f : Fields) : List String → Fields
  | [] => f
  | [s] => f.add s.toList
  | s :: rest => ((f.add s.toList).cut).addAll rest

end Fields

namespace Machine

/-- The value of a parameter. -/
def value (m : Machine) (name : String) : String :=
  match name with
  | "@" | "*" => " ".intercalate m.args
  | "#" => toString m.args.length
  | "?" => toString m.status
  | "$" => "$$"
  | "0" => m.name
  | name =>
    match name.toNat? with
    | some n => (m.args[n - 1]?).getD ""
    | none => (m.bindings.lookup name).getD ""

/-- Expands a word into fields. -/
def expand (m : Machine) (w : Word) : List String :=
  (w.foldl (fun f part =>
    match part with
    | .text cs _ => f.add cs
    | .parameter "@" true => f.addAll m.args
    | .parameter name true => f.add (m.value name).toList
    | .parameter name false => f.addSplit (m.value name).toList) ({} : Fields)).cut.complete

/-- Expands a word into one text. -/
def expandWhole (m : Machine) (w : Word) : String := " ".intercalate (m.expand w)

/-! ## Streams -/

/-- Sends bytes to a sink. -/
def send (m : Machine) (sink : Sink) (bytes : Bytes) : Machine :=
  match sink with
  | .output => { m with output := m.output ++ bytes }
  | .errors => { m with errors := m.errors ++ bytes }
  | .pipe => { m with piped := m.piped ++ bytes }
  | .nowhere => m
  | .file path =>
    let before := (m.files.read path).toOption.getD ByteArray.empty
    match m.files.write path (before ++ ByteArray.mk bytes.toArray) with
    | .ok files => { m with files }
    | .error _ => m

/-- Complains about a command, and goes on with a status. -/
def complain (m : Machine) (what : String) (status : Nat) : Machine :=
  { m.send m.errorsTo (bytesOf (m.name ++ ": 1: " ++ what ++ "\n")) with status }

/-- The sink under a path. A file is made, or emptied unless it is to be appended to. -/
def openSink (m : Machine) (path : String) (append : Bool) : Except String (Machine × Sink) :=
  match path with
  | "/dev/null" => .ok (m, .nowhere)
  | "/dev/stdout" => .ok (m, m.outTo)
  | "/dev/stderr" => .ok (m, m.errorsTo)
  | path =>
    if append && (m.files.read path).isOk then .ok (m, .file path)
    else match m.files.write path ByteArray.empty with
      | .ok files => .ok ({ m with files }, .file path)
      | .error e => .error ("cannot create " ++ path ++ ": " ++
          if e = .notFound then "Directory nonexistent" else complaint e)

/-- Follows redirections, with the input as it is after them. -/
def redirect (m : Machine) (input : Bytes) (rs : List Redirect) : Except String (Machine × Bytes) :=
  rs.foldlM (fun (m, input) r =>
    match r with
    | .input path =>
      let path := m.expandWhole path
      match contentOf m.files path with
      | .ok bytes => .ok (m, bytes)
      | .error e => .error ("cannot open " ++ path ++ ": " ++
          if e = .notFound then "No such file" else complaint e)
    | .output stream append path => do
      let (m, sink) ← m.openSink (m.expandWhole path) append
      return (if stream = 2 then { m with errorsTo := sink } else { m with outTo := sink }, input)
    | .duplicate 2 1 => .ok ({ m with errorsTo := m.outTo }, input)
    | .duplicate 1 2 => .ok ({ m with outTo := m.errorsTo }, input)
    | .duplicate _ _ => .ok (m, input)) (m, input)

/-- Does something under redirections, which hold no longer than that. -/
def within (m : Machine) (input : Bytes) (rs : List Redirect) (act : Bytes → Machine → Machine) :
    Machine :=
  match m.redirect input rs with
  | .error what => m.complain what 2
  | .ok (inner, input) => { act input inner with outTo := m.outTo, errorsTo := m.errorsTo }

/-! ## Commands -/

/-- The number of a signal, given as one or by its name. -/
def signalOf (s : String) : Nat :=
  let s := if s.startsWith "-" then (s.drop 1).toString else s
  match s.toNat? with
  | some n => n
  | none =>
    match signalNames.find? fun (_, name) => name = s || name = "SIG" ++ s with
    | some (n, _) => n
    | none => 15

/-- Runs the commands that are part of the shell. -/
def builtin? (m : Machine) (name : String) (args : List String) : Option Machine :=
  match name, args with
  | "exit", [] => some { m with ended := some (.exited m.status) }
  | "exit", s :: _ =>
    match s.toNat? with
    | some n => some { m with ended := some (.exited (n % 256)) }
    | none => some { m.complain ("exit: Illegal number: " ++ s) 2 with ended := some (.exited 2) }
  | "kill", ["-s", signal, "$$"] | "kill", [signal, "$$"] =>
    let n := signalOf signal
    if n = 0 then some { m with status := 0 } else some { m with ended := some (.killed n) }
  | "kill", ["$$"] => some { m with ended := some (.killed 15) }
  | "shift", [] => some { m with args := m.args.drop 1, status := 0 }
  | "shift", [n] => some { m with args := m.args.drop (n.toNat?.getD 1), status := 0 }
  | "set", "--" :: args => some { m with args, status := 0 }
  | "unset", names =>
    some { m with bindings := m.bindings.filter (!names.contains ·.1), status := 0 }
  | "wait", _ => some { m with status := 0 }
  | _, _ => none

/-- Runs a program. -/
def runProgram (input : Bytes) (name : String) (args : List String) (m : Machine) : Machine :=
  match m.builtin? name args with
  | some m => m
  | none =>
    match utility? m.files input name args with
    | some e =>
      let m := { m with files := e.files, status := e.status
                        milliseconds := m.milliseconds + e.milliseconds }
      (m.send m.outTo e.output).send m.errorsTo e.errors
    | none => m.complain (name ++ ": not found") 127

/-- Runs a command of words, with the assignments in front of it. -/
def runSimple (m : Machine) (input : Bytes) (assignments : List (String × Word))
    (words : List Word) (redirects : List Redirect) : Machine :=
  match words.flatMap m.expand with
  | [] =>
    let m := assignments.foldl (fun m (name, w) =>
      { m with bindings := (name, m.expandWhole w) :: m.bindings }) { m with status := 0 }
    m.within input redirects fun _ m => m
  | ["exec"] =>
    match m.redirect input redirects with
    | .error what => { m.complain what 2 with ended := some (.exited 2) }
    | .ok (m, _) => { m with status := 0 }
  | "exec" :: name :: args =>
    let m := m.within input redirects (runProgram · name args)
    { m with ended := some (m.ended.getD (.exited m.status)) }
  | "command" :: name :: args => m.within input redirects (runProgram · name args)
  | name :: args => m.within input redirects (runProgram · name args)

/-- The machine after a part of a script that has no say in what follows but by its
status. -/
def rejoin (m after : Machine) : Machine :=
  { after with
    args := m.args, bindings := m.bindings, outTo := m.outTo, errorsTo := m.errorsTo
    ended := none
    status := match after.ended with
      | some (.exited status) => status
      | some (.killed signal) => 128 + signal
      | none => after.status }

/-- Whether nothing more is done. -/
def isDone (m : Machine) : Bool := m.ended.isSome || m.limit.any (· ≤ m.milliseconds)

/-- Runs a command. A script has as many steps as its text and its loops need; `fuel`
bounds their depth. -/
def run : Nat → Bytes → Command → Machine → Machine
  | 0, _, _, m => m
  | fuel + 1, input, c, m =>
    if m.isDone then m
    else match c with
      | .nothing => m
      | .simple assignments words redirects => m.runSimple input assignments words redirects
      | .sequence first second => run fuel input second (run fuel input first m)
      | .both first second =>
        let m := run fuel input first m
        if m.status = 0 then run fuel input second m else m
      | .either first second =>
        let m := run fuel input first m
        if m.status = 0 then m else run fuel input second m
      | .negation c =>
        let m := run fuel input c m
        { m with status := if m.status = 0 then 1 else 0 }
      | .condition test positive negative =>
        let m := run fuel input test m
        if m.status = 0 then run fuel input positive m
        else run fuel input negative { m with status := 0 }
      | .redirected c redirects => m.within input redirects fun input m => run fuel input c m
      | .subshell c => m.rejoin (run fuel input c m)
      | .background c => { m.rejoin (run fuel [] c m) with status := 0, milliseconds := m.milliseconds }
      | .pipe first second =>
        let after := m.rejoin (run fuel input first { m with piped := [], outTo := .pipe })
        m.rejoin (run fuel after.piped second { after with piped := m.piped })
      | .loop name words body =>
        (words.flatMap m.expand).foldl (fun m value =>
          run fuel input body { m with bindings := (name, value) :: m.bindings })
          { m with status := 0 }
      | .repeating wanted test body =>
        let tested := run fuel input test m
        if decide (tested.status = 0) = wanted then
          run fuel input (.repeating wanted test body) (run fuel input body { tested with status := 0 })
        else { tested with status := m.status }

end Machine

/-! ## A host -/

/-- How deep the commands of a script are nested at most, and how often they are repeated. -/
def depthLimit : Nat := 100000

/-- What has become of a program, and the files that it leaves. -/
def Machine.summary (m : Machine) : ProgramRun × FileSystem :=
  (⟨m.output, m.errors, m.ended.getD (.exited m.status), m.milliseconds⟩, m.files)

/-- Runs a script under a name with arguments; its input is empty. -/
def runScript (files : FileSystem) (limit : Option Nat) (script name : String)
    (args : List String) : ProgramRun × FileSystem :=
  let m : Machine := { files, name, args, limit }
  match parse? script with
  | none =>
    (m.complain "Syntax error: end of file unexpected" 2).summary
  | some c => (Machine.run depthLimit [] c m).summary

/-- A host with a shell and the programs that scripts are made of. Programs are known by
name; files hold no programs. -/
def host : Host := fun files limit program args =>
  if args.any (·.toList.contains '\x00') then none
  else match program, args with
    | "sh", "-c" :: script :: name :: args | "/bin/sh", "-c" :: script :: name :: args =>
      some (runScript files limit script name args)
    | "sh", ["-c", script] | "/bin/sh", ["-c", script] =>
      some (runScript files limit script "sh" [])
    | program, args =>
      if program = ":" || (utility? files [] program args).isNone then none
      else
        let m : Machine := { files, name := program, args, limit }
        some (if m.isDone then m else m.runProgram [] program args).summary

end ServiceSchema.Shell
