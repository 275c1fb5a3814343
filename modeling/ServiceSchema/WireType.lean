/-
How shapes are written in a schema, and which files they need. A record is
written by its name unless the table of well-known types gives another; a map
names both of its sides, a sequence repeats its element. The files are those of
the well-known types met on the way, inside map keys too.
-/
import ServiceSchema.Shape
import ServiceSchema.WellKnown

namespace ServiceSchema

open WellKnownTypes

/-- The name of a scalar in a schema. -/
def Scalar.wireType : Scalar → String
  | .int8 | .int16 | .int32 => "int32"
  | .int64 => "int64"
  | .uint8 | .uint16 | .uint32 => "uint32"
  | .uint64 => "uint64"
  | .float32 => "float"
  | .float64 => "double"
  | .bool => "bool"
  | .text => "string"
  | .timestamp => timestampName
  | .duration => durationName
  | .other name => name

/-- The name of a record in a schema. -/
def Record.wireType (known : WellKnownTypes) (r : Record) : String :=
  match known.get? r.name with
  | some entry => entry.wireType
  | none => r.name

namespace Shape

/-- How a shape is written in a schema. -/
def wireType (known : WellKnownTypes) : Shape → String
  | .scalar kind => kind.wireType
  | .record r => r.wireType known
  | .sequence element => "repeated " ++ element.wireType known
  | .map key value => "map<" ++ key.wireType known ++ ", " ++ value.wireType known ++ ">"

/-- The files a shape needs, in the order they are met. -/
def files (known : WellKnownTypes) : Shape → List String
  | .scalar .timestamp => [timestampFile]
  | .scalar .duration => [durationFile]
  | .scalar _ => []
  | .record r => ((known.get? r.name).bind (·.importPath)).toList
  | .sequence element => element.files known
  | .map key value => key.files known ++ value.files known

end Shape

/-- The distinct files of some shapes, in increasing order. -/
def sortedFiles (known : WellKnownTypes) (shapes : List Shape) : List String :=
  (Table.ofList ((shapes.flatMap (·.files known)).map fun file => (file, ()))).keys

end ServiceSchema
