/-
How manifests are written in documents. Writing a manifest and decoding what has
been written gives it back.
-/
import ServiceSchema.Format.Service
import ServiceSchema.Manifest

namespace ServiceSchema

namespace FieldSpec

def format : Fields FieldSpec :=
  mk <$> .required "name" Decode.text <*> .required "type" Decode.text

def decode : Decoder FieldSpec := Decode.record "FieldSpec" format

def toJson (spec : FieldSpec) : Json :=
  .object [("name", .text spec.name), ("type", .text spec.type)]

end FieldSpec

namespace RecordSpec

def format : Fields RecordSpec :=
  mk <$> .required "name" Decode.text
    <*> .withDefault "fields" [] (Decode.list FieldSpec.decode)

def decode : Decoder RecordSpec := Decode.record "RecordSpec" format

def toJson (spec : RecordSpec) : Json :=
  .object [("name", .text spec.name), ("fields", .array (spec.fields.map FieldSpec.toJson))]

end RecordSpec

namespace HandlerSpec

def format : Fields HandlerSpec :=
  mk <$> .required "name" Decode.text
    <*> .required "method" HttpMethod.decode
    <*> .required "route" Decode.text
    <*> .required "request" Decode.text
    <*> .required "response" Decode.text
    <*> .withDefault "authentication" [] (Decode.list Decode.text)
    <*> .withDefault "permissions" [] (Decode.list Decode.text)

def decode : Decoder HandlerSpec := Decode.record "HandlerSpec" format

def toJson (spec : HandlerSpec) : Json :=
  .object [("name", .text spec.name), ("method", spec.method.toJson),
    ("route", .text spec.route), ("request", .text spec.request),
    ("response", .text spec.response),
    ("authentication", .array (spec.authentication.map .text)),
    ("permissions", .array (spec.permissions.map .text))]

end HandlerSpec

namespace Manifest

def format : Fields Manifest :=
  mk <$> .required "service" ServiceInfo.decode
    <*> .withDefault "records" [] (Decode.list RecordSpec.decode)
    <*> .withDefault "handlers" [] (Decode.list HandlerSpec.decode)

def decode : Decoder Manifest := Decode.record "ServiceManifest" format

def toJson (m : Manifest) : Json :=
  .object [("service", m.service.toJson),
    ("records", .array (m.records.map RecordSpec.toJson)),
    ("handlers", .array (m.handlers.map HandlerSpec.toJson))]

end Manifest

end ServiceSchema
