/-
How the settings of a run are written in documents. Every one of them may be left
out.
-/
import ServiceSchema.Config
import ServiceSchema.Format.Service

namespace ServiceSchema

def Layout.decode : Decoder Layout := Decode.variant (all.map fun layout => (layout.name, layout))

namespace CompilerConfig

def format : Fields CompilerConfig :=
  mk <$> .withDefault "program" "protoc" Decode.text
    <*> .withDefault "args" [] (Decode.list Decode.text)
    <*> .withDefault "timeout_secs" none (Decode.option Decode.uint64)

def decode : Decoder CompilerConfig := Decode.record "CompilerConfig" format

def toJson (c : CompilerConfig) : Json :=
  .object [("program", .text c.program), ("args", .array (c.args.map .text)),
    ("timeout_secs", match c.timeoutSeconds with
      | some n => .integer n.toNat
      | none => .null)]

end CompilerConfig

namespace Config

def format : Fields Config :=
  mk <$> .withDefault "output_dir" "proto" Decode.path
    <*> .withDefault "field_layout" .nameFirst Layout.decode
    <*> .withDefault "well_known_types" .empty (Decode.table WellKnownType.decode)
    <*> .withDefault "compiler" {} CompilerConfig.decode

def decode : Decoder Config := Decode.record "GeneratorConfig" format

def toJson (c : Config) : Json :=
  .object [("output_dir", .text c.outputDir), ("field_layout", .text c.layout.name),
    ("well_known_types",
      .object (c.wellKnown.entries.map fun (name, type) => (name, type.toJson))),
    ("compiler", c.compiler.toJson)]

end Config

end ServiceSchema
