/-
The notations of files, told by the endings of their names, and decoding a file's
text in one of them.
-/
import ServiceSchema.Decode
import ServiceSchema.Files.Path
import ServiceSchema.Json.Reader
import ServiceSchema.Text.LowerCase
import ServiceSchema.Toml.Reader
import ServiceSchema.Yaml.Document

namespace ServiceSchema

inductive FileFormat where
  | yaml | toml | json
deriving DecidableEq, Repr

/-- The ending of a path in lower case, empty when it has none. -/
def extensionOf (path : String) : String :=
  Text.asciiLower ((Path.extension? path).getD "")

namespace FileFormat

def ofExtension? : String → Option FileFormat
  | "yaml" | "yml" => some .yaml
  | "toml" => some .toml
  | "json" => some .json
  | _ => none

/-- Decodes a text. In JSON the value is judged before what follows it. -/
def decode {α : Type} (format : FileFormat) (decoder : Decoder α) (text : String) :
    Except DecodeError α :=
  match format with
  | .json => do
    let (node, ended) := Json.readText text
    let value ← decoder .json node
    if ended then return value else throw .malformed
  | .yaml =>
    match Yaml.read? text with
    | some (node, source) => decoder source node
    | none => .error .malformed
  | .toml =>
    match Toml.read? text with
    | some node => decoder .toml node
    | none => .error .malformed

end FileFormat

end ServiceSchema
