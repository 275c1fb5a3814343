/-
How records and their shapes are written in documents. A scalar is the name of its
kind; any other scalar is an entry with its name, so the two cannot be confused.
-/
import ServiceSchema.Json
import ServiceSchema.Shape

namespace ServiceSchema

def Scalar.toJson : Scalar → Json
  | .int8 => .text "int8"
  | .int16 => .text "int16"
  | .int32 => .text "int32"
  | .int64 => .text "int64"
  | .uint8 => .text "uint8"
  | .uint16 => .text "uint16"
  | .uint32 => .text "uint32"
  | .uint64 => .text "uint64"
  | .float32 => .text "float32"
  | .float64 => .text "float64"
  | .bool => .text "bool"
  | .text => .text "text"
  | .timestamp => .text "timestamp"
  | .duration => .text "duration"
  | .other name => .object [("other", .text name)]

mutual

def Shape.toJson : Shape → Json
  | .scalar kind => .object [("scalar", kind.toJson)]
  | .record r => .object [("record", r.toJson)]
  | .sequence element => .object [("sequence", element.toJson)]
  | .map key value => .object [("map", .array [key.toJson, value.toJson])]

def Record.toJson : Record → Json
  | ⟨name, fields⟩ => .object [("name", .text name), ("fields", .array (Field.toJsonList fields))]

def Field.toJsonList : List Field → List Json
  | [] => []
  | ⟨name, ordinal, shape⟩ :: rest =>
    .object [("name", .text name), ("ordinal", .integer ordinal.toNat), ("type", shape.toJson)]
      :: Field.toJsonList rest

end

end ServiceSchema
