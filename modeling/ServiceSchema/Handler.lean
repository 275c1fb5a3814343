/-
What a schema needs to know of a handler: its name, the records it takes and
gives, how it is reached over HTTP, and who may call it.
-/
import ServiceSchema.Generation.Error
import ServiceSchema.Http
import ServiceSchema.Security

namespace ServiceSchema

structure Handler where
  name : String
  request : Record
  response : Record
  method : HttpMethod
  route : String
  authentication : Claims
  permissions : List Permission
deriving DecidableEq

namespace Handler

/-- The record that a shape is; any other shape is refused. -/
def requireRecord (handler : String) (role : Role) : Shape → Except GenerationError Record
  | .record r => .ok r
  | shape => .error (.invalidHandler handler role shape)

/-- A handler between two shapes, which must be records. -/
def make (name : String) (request response : Shape) (method : HttpMethod) (route : String)
    (authentication : Claims) (permissions : List Permission) : Except GenerationError Handler := do
  let request ← requireRecord name .request request
  let response ← requireRecord name .response response
  return { name, request, response, method, route, authentication, permissions }

end Handler

/-- What a text ends with after its last double colon, when both are reversed. -/
def untilDoubleColon : List Char → List Char
  | ':' :: ':' :: _ => []
  | c :: rest => c :: untilDoubleColon rest
  | [] => []

/-- The last part of a qualified type name, without generic arguments: `GetWidget`
of `app::api::GetWidget<app::Db>`. -/
def shortTypeName (full : String) : String :=
  String.ofList (untilDoubleColon (full.toList.takeWhile (· != '<')).reverse).reverse

end ServiceSchema
