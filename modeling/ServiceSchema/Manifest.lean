/-
Service manifests: a service, the records it declares, and its handlers, with
every type written as a type expression. What can go wrong with a manifest, from
reading its file to resolving its handlers, is one error type.
-/
import ServiceSchema.Decode
import ServiceSchema.Generation.Error
import ServiceSchema.Service
import ServiceSchema.TypeExpr

namespace ServiceSchema

structure FieldSpec where
  name : String
  /-- The field's type expression. -/
  type : String
deriving DecidableEq, Repr

structure RecordSpec where
  name : String
  fields : List FieldSpec := []
deriving DecidableEq, Repr

structure HandlerSpec where
  name : String
  method : HttpMethod
  route : String
  /-- The type expression of the request, which must resolve to a record. -/
  request : String
  /-- The type expression of the response, which must resolve to a record. -/
  response : String
  /-- Names of claims. -/
  authentication : List String := []
  permissions : List Permission := []
deriving DecidableEq, Repr

structure Manifest where
  service : ServiceInfo
  records : List RecordSpec := []
  handlers : List HandlerSpec := []
deriving DecidableEq, Repr

/-- Where a type expression stands. -/
inductive Referrer where
  | handler (name : String)
  | field (record name : String)
deriving DecidableEq, Repr

def Referrer.display : Referrer → String
  | .handler name => "handler `" ++ name ++ "`"
  | .field record name => "field `" ++ record ++ "." ++ name ++ "`"

inductive ManifestError where
  /-- The file cannot be read as text. -/
  | io (path : String)
  | unsupportedFormat (path extension : String)
  | parse (error : DecodeError)
  | malformedType (error : MalformedType)
  | unknownType (name : String) (referrer : Referrer)
  | duplicateRecord (name : String)
  | duplicateField (record field : String)
  /-- A record that contains itself, by way of the records in between. -/
  | recursiveRecord (cycle : List String)
  | unknownClaim (handler claim : String)
  | generation (error : GenerationError)
deriving DecidableEq

namespace ManifestError

def message : ManifestError → String
  | .io path => "failed to read manifest " ++ path
  | .unsupportedFormat path extension =>
    "unsupported manifest format `" ++ extension ++ "` for " ++ path
      ++ " (expected yaml, yml or json)"
  | .parse error => "invalid manifest: " ++ error.message?.getD "not well formed"
  | .malformedType error => error.message
  | .unknownType name referrer => "unknown type `" ++ name ++ "` referenced by " ++ referrer.display
  | .duplicateRecord name => "record `" ++ name ++ "` is declared more than once"
  | .duplicateField record field =>
    "record `" ++ record ++ "` declares field `" ++ field ++ "` more than once"
  | .recursiveRecord cycle => "recursive record definition: " ++ " -> ".intercalate cycle
  | .unknownClaim handler claim =>
    "handler `" ++ handler ++ "` has unknown authentication claim `" ++ claim ++ "`"
  | .generation error => error.message

end ManifestError

end ServiceSchema
