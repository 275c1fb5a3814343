/-
Running a schema compiler on a schema file. The compiler is a program of the host,
which either cannot start it or says how it has run; all that counts is whether it
succeeded, what it wrote, and whether it took too long.
-/
import ServiceSchema.Config
import ServiceSchema.Files.FileSystem
import ServiceSchema.Generation.Error
import ServiceSchema.Text.Utf8

namespace ServiceSchema

/-! ## Programs and hosts -/

/-- How a program ends. -/
inductive Ending where
  | exited (status : Nat)
  | killed (signal : Nat)
deriving DecidableEq, Repr

/-- The names of signals by their numbers. -/
def signalNames : List (Nat × String) :=
  [(1, "SIGHUP"), (2, "SIGINT"), (3, "SIGQUIT"), (4, "SIGILL"), (5, "SIGTRAP"), (6, "SIGABRT"),
    (7, "SIGBUS"), (8, "SIGFPE"), (9, "SIGKILL"), (10, "SIGUSR1"), (11, "SIGSEGV"),
    (12, "SIGUSR2"), (13, "SIGPIPE"), (14, "SIGALRM"), (15, "SIGTERM"), (16, "SIGSTKFLT"),
    (17, "SIGCHLD"), (18, "SIGCONT"), (19, "SIGSTOP"), (20, "SIGTSTP"), (21, "SIGTTIN"),
    (22, "SIGTTOU"), (23, "SIGURG"), (24, "SIGXCPU"), (25, "SIGXFSZ"), (26, "SIGVTALRM"),
    (27, "SIGPROF"), (28, "SIGWINCH"), (29, "SIGIO"), (30, "SIGPWR"), (31, "SIGSYS")]

namespace Ending

def isSuccess : Ending → Bool
  | .exited status => status = 0
  | .killed _ => false

def display : Ending → String
  | .exited status => "exit status: " ++ toString status
  | .killed signal =>
    "signal: " ++ toString signal ++ match signalNames.lookup signal with
      | some name => " (" ++ name ++ ")"
      | none => ""

end Ending

/-- What a program has done: its output, its end, and how long it took. -/
structure ProgramRun where
  output : List UInt8
  errors : List UInt8
  ending : Ending
  milliseconds : Nat

/-- Runs a program with arguments on a file system, up to a limit of milliseconds; there is
no answer when it cannot be started. -/
abbrev Host := FileSystem → (limit : Option Nat) → (program : String) → (args : List String) →
  Option (ProgramRun × FileSystem)

/-! ## Compilers -/

structure Compiler where
  program : String
  args : List String := []
  timeout : Option Timeout := none
deriving DecidableEq, Repr

/-- What a compiler that succeeded has written. -/
structure CompilerOutput where
  stdout : String
  stderr : String
deriving DecidableEq, Repr

namespace Compiler

def ofConfig (c : CompilerConfig) : Compiler where
  program := c.program
  args := c.args
  timeout := c.timeoutSeconds.map fun n => Timeout.ofSeconds n.toNat

/-- The directory in which a schema and what it imports are looked for. -/
def includeDir (schema : String) : String :=
  match Path.parent? schema with
  | some dir => if dir.isEmpty then "." else dir
  | none => "."

/-- All arguments, those that name the schema last. -/
def arguments (c : Compiler) (schema : String) : List String :=
  c.args ++ ["-I", includeDir schema, schema]

/-- What a failed compiler has to say: errors, then other output, without blanks around
them. -/
def diagnostics (stdout stderr : String) : String :=
  "\n".intercalate ([Text.trim stderr, Text.trim stdout].filter (!·.isEmpty))

/-- Whether a run takes longer than it may. -/
def isTooLong (c : Compiler) (run : ProgramRun) : Option Timeout :=
  c.timeout.filter (·.milliseconds ≤ run.milliseconds)

/-- Compiles a schema. -/
def compile (c : Compiler) (host : Host) (fs : FileSystem) (schema : String) :
    Except GenerationError CompilerOutput × FileSystem :=
  match host fs (c.timeout.map (·.milliseconds)) c.program (c.arguments schema) with
  | none => (.error (.compilerSpawn c.program), fs)
  | some (run, after) =>
    let stdout := Text.decodeLossy run.output
    let stderr := Text.decodeLossy run.errors
    match c.isTooLong run with
    | some timeout => (.error (.compilerTimeout c.program timeout), after)
    | none =>
      if run.ending.isSuccess then (.ok ⟨stdout, stderr⟩, after)
      else
        (.error (.compilerFailed c.program run.ending.display (diagnostics stdout stderr)), after)

end Compiler

end ServiceSchema
