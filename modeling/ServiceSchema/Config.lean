/-
Settings of a generator run: where the schema goes, how its field lines are laid
out, which well-known types are added to the standard ones, and which compiler is
run. Two environment variables override two of them.
-/
import ServiceSchema.Layout
import ServiceSchema.Text.Blank
import ServiceSchema.WellKnown

namespace ServiceSchema

structure CompilerConfig where
  program : String := "protoc"
  /-- Arguments before those that name the schema. -/
  args : List String := []
  /-- The seconds after which the compiler is stopped; no limit without them. -/
  timeoutSeconds : Option UInt64 := none
deriving DecidableEq, Repr

structure Config where
  outputDir : String := "proto"
  layout : Layout := .nameFirst
  /-- Well-known types that are added to the standard ones or replace them. -/
  wellKnown : WellKnownTypes := .empty
  compiler : CompilerConfig := {}
deriving DecidableEq

/-- The variables of an environment. -/
abbrev Environment := String → Option String

/-- A variable that is set to something other than blanks. -/
def Environment.present? (env : Environment) (name : String) : Option String :=
  (env name).filter fun value => !Text.allBlank value

namespace Config

def outDirVariable : String := "PROTOROOT_OUT_DIR"
def compilerVariable : String := "PROTOROOT_PROTOC"

/-- The settings as an environment changes them. -/
def applyEnvironment (c : Config) (env : Environment) : Config :=
  { c with
    outputDir := (env.present? outDirVariable).getD c.outputDir
    compiler := { c.compiler with
      program := (env.present? compilerVariable).getD c.compiler.program } }

/-- The table of well-known types under these settings. -/
def knownTypes (c : Config) : WellKnownTypes :=
  WellKnownTypes.standard.extend c.wellKnown.entries

end Config

end ServiceSchema
