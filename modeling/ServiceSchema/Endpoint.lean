/-
Endpoints: handlers that can be called. A typed handler works on values of its own
request and response types; as an endpoint it takes and gives documents. Decoding
a request leaves the body of the handler, ready to run on a context.
-/
import ServiceSchema.Decode
import ServiceSchema.Handler
import ServiceSchema.Json

namespace ServiceSchema

/-- How running a handler can fail. -/
inductive BodyError where
  /-- The handler gives up; the reasons stand outermost first. -/
  | failed (reasons : List String)
  /-- The response has no document. -/
  | unencodable (reason : String)
deriving DecidableEq, Repr

/-- The body of a handler with its request filled in. -/
abbrev Body := Context → Except BodyError Json × Context

structure Endpoint where
  name : String
  /-- What a schema needs to know; an endpoint that is not between records has none. -/
  descriptor : Except GenerationError Handler
  authentication : Claims
  permissions : List Permission
  /-- Decodes a request into the body that answers it. -/
  prepare : Json → Except DecodeError Body

/-- A handler between two types, with their shapes and documents. -/
structure TypedHandler (Request Response : Type) where
  name : String
  method : HttpMethod
  route : String
  authentication : Claims := .anyone
  permissions : List Permission := []
  requestShape : Shape
  responseShape : Shape
  decode : Decoder Request
  encode : Response → Except String Json
  handle : Context → Request → Except (List String) Response × Context

namespace TypedHandler

variable {Request Response : Type}

/-- The handler's body on a request: it runs once, and its response is encoded. -/
def body (h : TypedHandler Request Response) (request : Request) : Body := fun context =>
  match h.handle context request with
  | (.error reasons, context) => (.error (.failed reasons), context)
  | (.ok response, context) => ((h.encode response).mapError .unencodable, context)

/-- Decodes a request as a value in memory, the entries of objects in order of keys. -/
def prepare (h : TypedHandler Request Response) (request : Json) : Except DecodeError Body :=
  (h.decode .memory request.sorted.toNode).map h.body

def toEndpoint (h : TypedHandler Request Response) : Endpoint where
  name := h.name
  descriptor := Handler.make h.name h.requestShape h.responseShape h.method h.route
    h.authentication h.permissions
  authentication := h.authentication
  permissions := h.permissions
  prepare := h.prepare

end TypedHandler

end ServiceSchema
