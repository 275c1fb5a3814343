/-
A service: how it is called, its handlers, and the records that its schema
defines. Its document has one message for each of those records and one method
for each handler, in order.
-/
import ServiceSchema.Discovery
import ServiceSchema.Document
import ServiceSchema.Text.LowerCase
import ServiceSchema.Text.Words
import ServiceSchema.WireType

namespace ServiceSchema

structure ServiceInfo where
  name : String
  /-- Dotted prefix of the schema's package; dots at its ends do not count. -/
  packagePath : String := ""
  /-- Namespace of the generated code, left out when empty. -/
  goPackage : String := ""
  version : UInt32 := 1
deriving DecidableEq, Repr

namespace ServiceInfo

/-- The dotted prefix without the dots at its ends. -/
def packagePrefix (info : ServiceInfo) : String :=
  let isDot := fun c : Char => c == '.'
  String.ofList (((info.packagePath.toList.dropWhile isDot).reverse.dropWhile isDot).reverse)

/-- The package of the schema: prefix, service name in snake case, version. -/
def package (info : ServiceInfo) : String :=
  let versioned := Text.snakeCase info.name ++ ".v" ++ toString info.version.toNat
  if info.packagePrefix.isEmpty then versioned else info.packagePrefix ++ "." ++ versioned

/-- The name of the service in the schema, in camel case. -/
def ident (info : ServiceInfo) : String := Text.camelCase info.name

end ServiceInfo

structure Service where
  info : ServiceInfo
  handlers : List Handler
  records : List Record
deriving DecidableEq

namespace Service

/-- The service of some handlers, with the records found from them. -/
def make (known : WellKnownTypes) (info : ServiceInfo) (handlers : List Handler) :
    Except GenerationError Service :=
  (collectRecords known handlers).map fun records => { info, handlers, records }

end Service

/-! ## The document of a service -/

def Field.line (known : WellKnownTypes) (f : Field) : FieldLine :=
  ⟨f.name, f.shape.wireType known, f.ordinal⟩

def Record.message (known : WellKnownTypes) (r : Record) : Message :=
  ⟨r.name, r.fields.map (·.line known)⟩

def Handler.rpc (h : Handler) : Rpc :=
  ⟨h.name, h.request.name, h.response.name, h.method.verb, Text.lower h.route⟩

namespace Service

/-- The file that defines HTTP rules, which every schema imports first. -/
def annotationsFile : String := "google/api/annotations.proto"

def document (s : Service) (known : WellKnownTypes) (layout : Layout) : Document where
  syntaxName := "proto3"
  package := s.info.package
  imports := annotationsFile ::
    sortedFiles known (s.records.flatMap fun r => r.fields.map (·.shape))
  goPackage := s.info.goPackage
  messages := s.records.map (·.message known)
  service := s.info.ident
  rpcs := s.handlers.map (·.rpc)
  layout := layout

/-- The schema of a service as text. -/
def schema (s : Service) (known : WellKnownTypes) (layout : Layout) : String :=
  (s.document known layout).render

end Service

end ServiceSchema
