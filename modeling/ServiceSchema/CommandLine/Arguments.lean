/-
The arguments of the command line: a command, and its options in any order. An
option's value follows it as the next argument, after an equals sign, or, behind a
single letter, at once. A value that stands in an argument of its own is looked at
when the next option comes, or at the end.
-/
import ServiceSchema.Layout

namespace ServiceSchema.CommandLine

/-- Why arguments are not a command to be run. -/
inductive UsageError where
  | help
  | version
  /-- There is no command at all. -/
  | noCommand
  | unknownCommand
  | unknownArgument
  | missingArgument
  /-- A value is missing, or is not one of those allowed. -/
  | badValue
  /-- A value for an option that takes none. -/
  | unwantedValue
  /-- An option is given twice, or beside one that excludes it. -/
  | conflict
deriving DecidableEq, Repr

inductive Switch where
  | manifest | config | out | layout | dryRun | compile | help
deriving DecidableEq, Repr

/-- What has been given so far. -/
structure Given where
  manifest : Option String := none
  config : Option String := none
  out : Option String := none
  layout : Option Layout := none
  dryRun : Bool := false
  compile : Bool := false
deriving DecidableEq, Repr

/-- A command with its options. -/
inductive Command where
  | generate (manifest : String) (config out : Option String) (layout : Option Layout)
      (dryRun compile : Bool)
  | describe (manifest : String) (config : Option String)
deriving DecidableEq, Repr

namespace Switch

def long : Switch → String
  | .manifest => "manifest"
  | .config => "config"
  | .out => "out"
  | .layout => "layout"
  | .dryRun => "dry-run"
  | .compile => "compile"
  | .help => "help"

def short? : Switch → Option Char
  | .manifest => some 'm'
  | .config => some 'c'
  | .out => some 'o'
  | .help => some 'h'
  | _ => none

def takesValue : Switch → Bool
  | .manifest | .config | .out | .layout => true
  | _ => false

end Switch

/-- The options of the command `generate`. -/
def generateOptions : List Switch := [.manifest, .config, .out, .layout, .dryRun, .compile, .help]

/-- The options of the command `describe`. -/
def describeOptions : List Switch := [.manifest, .config, .help]

/-! ## Settling options -/

/-- A path, which is not empty and must not have been given before. -/
def newPath (before : Option String) (value : String) : Except UsageError (Option String) :=
  if before.isSome then .error .conflict
  else if value.isEmpty then .error .badValue
  else .ok (some value)

/-- A layout by its name, which must not have been given before. -/
def newLayout (before : Option Layout) (value : String) : Except UsageError (Option Layout) :=
  if before.isSome then .error .conflict
  else match Layout.all.find? (·.optionName = value) with
    | some layout => .ok (some layout)
    | none => .error .badValue

/-- A flag, which must not have been given before. -/
def newFlag (before : Bool) : Except UsageError Bool :=
  if before then .error .conflict else .ok true

namespace Given

/-- Takes in an option, with its value if there is one. -/
def settle (g : Given) (o : Switch) (value : Option String) : Except UsageError Given := do
  match o, value with
  | .manifest, some v => return { g with manifest := ← newPath g.manifest v }
  | .config, some v => return { g with config := ← newPath g.config v }
  | .out, some v => return { g with out := ← newPath g.out v }
  | .layout, some v => return { g with layout := ← newLayout g.layout v }
  | .dryRun, _ => return { g with dryRun := ← newFlag g.dryRun }
  | .compile, _ => return { g with compile := ← newFlag g.compile }
  | .help, _ => throw .help
  | _, none => throw .badValue

end Given

/-- An option that has been named, and its value as far as that has come. -/
abbrev Pending := Option (Switch × Option String)

/-- Takes in the option that was named last. -/
def Given.settlePending (g : Given) : Pending → Except UsageError Given
  | some (o, value) => g.settle o value
  | none => .ok g

/-! ## Reading arguments -/

/-- The name of a long option, and the value after its equals sign. -/
def splitLong (cs : List Char) : String × Option String :=
  let name := String.ofList (cs.takeWhile (· != '='))
  match cs.dropWhile (· != '=') with
  | _ :: value => (name, some (String.ofList value))
  | [] => (name, none)

/-- Names an option that takes a value, or one that does not. -/
def takeOption (g : Given) (pending : Pending) (o : Switch) (value : Option String) :
    Except UsageError (Given × Pending) := do
  let g ← g.settlePending pending
  if o.takesValue && value.isNone then return (g, some (o, none))
  return (← g.settle o value, none)

/-- Reads a long option. -/
def takeLong (known : List Switch) (g : Given) (pending : Pending) (cs : List Char) :
    Except UsageError (Given × Pending) :=
  let (name, value) := splitLong cs
  match known.find? (·.long = name) with
  | none => .error .unknownArgument
  | some o =>
    if !o.takesValue && value.isSome then .error .unwantedValue
    else takeOption g pending o value

/-- Reads options of one letter each, of which the last may have a value at once. -/
def takeShort (known : List Switch) (g : Given) (pending : Pending) :
    List Char → Except UsageError (Given × Pending)
  | [] => .ok (g, pending)
  | c :: rest =>
    match known.find? (·.short? = some c) with
    | none => .error .unknownArgument
    | some o =>
      if o.takesValue then
        takeOption g pending o (match rest with
          | [] => none
          | '=' :: value => some (String.ofList value)
          | value => some (String.ofList value))
      else do
        let (g, pending) ← takeOption g pending o none
        takeShort known g pending rest

/-- Reads the arguments after a command. -/
def readOptions (known : List Switch) (g : Given) (pending : Pending) :
    List String → Except UsageError Given
  | [] => g.settlePending pending
  | arg :: rest =>
    match arg.toList, pending with
    | ['-', '-'], _ => if rest.isEmpty then g.settlePending pending else .error .unknownArgument
    | '-' :: '-' :: cs, _ => do
      let (g, pending) ← takeLong known g pending cs
      readOptions known g pending rest
    | '-' :: c :: cs, _ => do
      let (g, pending) ← takeShort known g pending (c :: cs)
      readOptions known g pending rest
    | _, some (o, none) => readOptions known g (some (o, some arg)) rest
    | _, _ => .error .unknownArgument

/-- The manifest, which has to be given. -/
def Given.manifestPath (g : Given) : Except UsageError String :=
  match g.manifest with
  | some path => .ok path
  | none => .error .missingArgument

def readGenerate (args : List String) : Except UsageError Command := do
  let g ← readOptions generateOptions {} none args
  if g.dryRun && g.compile then throw .conflict
  return .generate (← g.manifestPath) g.config g.out g.layout g.dryRun g.compile

def readDescribe (args : List String) : Except UsageError Command := do
  let g ← readOptions describeOptions {} none args
  return .describe (← g.manifestPath) g.config

def commandNames : List String := ["generate", "describe", "help"]

/-- What is asked of the command `help`: something about one command, or about all. -/
def readHelp : List String → UsageError
  | [] => .help
  | [command] => if commandNames.contains command then .help else .unknownCommand
  | _ => .unknownCommand

/-- Reads an option in front of the command, which must ask for help or the version. -/
def readGlobal (arg : List Char) : UsageError :=
  match arg with
  | '-' :: '-' :: cs =>
    match splitLong cs with
    | ("help", none) => .help
    | ("version", none) => .version
    | ("help", some _) | ("version", some _) => .unwantedValue
    | _ => .unknownArgument
  | '-' :: 'h' :: _ => .help
  | '-' :: 'V' :: _ => .version
  | '-' :: _ :: _ => .unknownArgument
  | _ => .unknownCommand

/-- Reads the arguments of a command line. -/
def parse : List String → Except UsageError Command
  | [] | ["--"] => .error .noCommand
  | "--" :: arg :: _ =>
    .error (if commandNames.contains arg then .unknownArgument else .unknownCommand)
  | "generate" :: args => readGenerate args
  | "describe" :: args => readDescribe args
  | "help" :: args => .error (readHelp args)
  | arg :: _ => .error (readGlobal arg.toList)

end ServiceSchema.CommandLine
