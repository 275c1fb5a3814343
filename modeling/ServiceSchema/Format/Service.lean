/-
How services are written in documents: their names and version, methods, and the
well-known types they use.
-/
import ServiceSchema.Decode
import ServiceSchema.Json
import ServiceSchema.Service

namespace ServiceSchema

namespace ServiceInfo

/-- The fields of a service; the prefix of its package may also be called `package`. -/
def format : Fields ServiceInfo :=
  mk <$> .required "name" Decode.text
    <*> .withDefault "package_path" "" Decode.text ["package"]
    <*> .withDefault "go_package" "" Decode.text
    <*> .withDefault "version" 1 Decode.uint32

def decode : Decoder ServiceInfo := Decode.record "ServiceInfo" format

def toJson (info : ServiceInfo) : Json :=
  .object [("name", .text info.name), ("package_path", .text info.packagePath),
    ("go_package", .text info.goPackage), ("version", .integer info.version.toNat)]

end ServiceInfo

namespace HttpMethod

/-- A method by its name. -/
def decode : Decoder HttpMethod := fun source node => do
  let s ← Decode.text source node
  match ofName? s with
  | some method => return method
  | none => throw (.refused (unsupported s))

def toJson (method : HttpMethod) : Json := .text method.name

end HttpMethod

namespace WellKnownType

def format : Fields WellKnownType :=
  mk <$> .required "wire_type" Decode.text
    <*> .withDefault "import" none (Decode.option Decode.text)

def decode : Decoder WellKnownType := Decode.record "WellKnownType" format

def toJson (type : WellKnownType) : Json :=
  .object [("wire_type", .text type.wireType),
    ("import", match type.importPath with
      | some path => .text path
      | none => .null)]

end WellKnownType

end ServiceSchema
