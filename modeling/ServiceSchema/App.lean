/-
An application: the endpoints of one service in order of registration, at most one
of each name, and the backends that decide who may call them. A call passes
authentication, then authorization, then decoding; what fails first is the answer,
and only then does the body run.
-/
import ServiceSchema.Config
import ServiceSchema.Endpoint
import ServiceSchema.Output
import ServiceSchema.Service

namespace ServiceSchema

/-- A backend that a handler may need. -/
inductive Gate where
  | authentication | permissions
deriving DecidableEq, Repr

def Gate.name : Gate → String
  | .authentication => "authentication"
  | .permissions => "permissions"

/-- How a call can fail. -/
inductive CallError where
  | unknownHandler (name : String)
  | missingBackend (handler : String) (gate : Gate)
  | security (error : SecurityError)
  | unauthenticated (handler : String)
  | forbidden (handler : String)
  | invalidRequest (handler : String) (error : DecodeError)
  | invalidResponse (handler reason : String)
  | failed (handler : String) (reasons : List String)
deriving DecidableEq, Repr

namespace CallError

def message : CallError → String
  | .unknownHandler name => "no handler registered under `" ++ name ++ "`"
  | .missingBackend handler gate =>
    "handler `" ++ handler ++ "` requires " ++ gate.name ++ " but no backend is configured"
  | .security error => error.message
  | .unauthenticated handler => "handler `" ++ handler ++ "` rejected the caller: not authenticated"
  | .forbidden handler => "handler `" ++ handler ++ "` rejected the caller: missing permissions"
  | .invalidRequest handler error =>
    "handler `" ++ handler ++ "` could not decode the request: "
      ++ error.message?.getD "not well formed"
  | .invalidResponse handler reason =>
    "handler `" ++ handler ++ "` could not encode the response: " ++ reason
  | .failed handler reasons => "handler `" ++ handler ++ "` failed: " ++ ": ".intercalate reasons

/-- The failure of a handler's body, as the failure of a call. -/
def ofBody (handler : String) : BodyError → CallError
  | .failed reasons => .failed handler reasons
  | .unencodable reason => .invalidResponse handler reason

end CallError

structure App where
  info : ServiceInfo
  endpoints : List Endpoint := []
  authentication : Option AuthenticationBackend := none
  permissions : Option PermissionBackend := none

/-- A schema, and the name of the file it belongs in. -/
structure GeneratedSchema where
  fileName : String
  text : String
deriving DecidableEq, Repr

namespace App

/-- An application without endpoints. -/
def named (name : String) : App := { info := { name } }

/-! ## Registration -/

def find? (a : App) (name : String) : Option Endpoint :=
  a.endpoints.find? (·.name = name)

/-- Registers an endpoint, unless its name is taken. The answer tells whether it was
registered. -/
def register (a : App) (e : Endpoint) : Bool × App :=
  if (a.find? e.name).isSome then (false, a)
  else (true, { a with endpoints := a.endpoints ++ [e] })

/-- The names of the endpoints in order of registration. -/
def names (a : App) : List String := a.endpoints.map (·.name)

/-! ## Schemas -/

/-- The descriptors of some endpoints, or the first error among them. -/
def descriptorsOf : List Endpoint → Except GenerationError (List Handler)
  | [] => .ok []
  | e :: rest => do
    let handler ← e.descriptor
    let handlers ← descriptorsOf rest
    return handler :: handlers

def descriptors (a : App) : Except GenerationError (List Handler) := descriptorsOf a.endpoints

def service (a : App) (known : WellKnownTypes) : Except GenerationError Service := do
  let handlers ← a.descriptors
  Service.make known a.info handlers

def generate (a : App) (config : Config) : Except GenerationError GeneratedSchema := do
  let service ← a.service config.knownTypes
  return ⟨schemaFileName a.info.name, service.schema config.knownTypes config.layout⟩

/-- Writes the schema into the output directory. -/
def write (a : App) (config : Config) (fs : FileSystem) :
    Except GenerationError String × FileSystem :=
  match a.generate config with
  | .error e => (.error e, fs)
  | .ok schema => writeSchema fs config.outputDir a.info.name schema.text

/-- Writes the schema and hands its path to a compiler. -/
def compile {α : Type} (a : App) (config : Config) (compiler : String → Except GenerationError α)
    (fs : FileSystem) : Except GenerationError α × FileSystem :=
  match a.write config fs with
  | (.error e, fs) => (.error e, fs)
  | (.ok path, fs) => (compiler path, fs)

/-! ## Calls -/

/-- Lets a caller pass who satisfies the claims of an endpoint. A caller whom the
backend identifies is put into the context. -/
def authenticate (a : App) (e : Endpoint) (context : Context) : Except CallError Context :=
  if e.authentication.any then .ok context
  else match a.authentication with
    | none => .error (.missingBackend e.name .authentication)
    | some backend =>
      match backend context e.authentication with
      | .error error => .error (.security error)
      | .ok .deny => .error (.unauthenticated e.name)
      | .ok (.allow none) => .ok context
      | .ok (.allow (some user)) => .ok (context.set .user (.user user))

/-- Lets a caller pass who holds the permissions of an endpoint. -/
def authorize (a : App) (e : Endpoint) (context : Context) : Except CallError Unit :=
  if e.permissions.isEmpty then .ok ()
  else match a.permissions with
    | none => .error (.missingBackend e.name .permissions)
    | some backend =>
      if backend.holds context e.permissions then .ok () else .error (.forbidden e.name)

/-- What stands before the body of an endpoint: the body that is to run, or the error
of the first check that failed, and the context as the checks leave it. -/
def screen (a : App) (e : Endpoint) (context : Context) (request : Json) :
    Except CallError Body × Context :=
  match a.authenticate e context with
  | .error error => (.error error, context)
  | .ok context =>
    match a.authorize e context with
    | .error error => (.error error, context)
    | .ok () => ((e.prepare request).mapError (.invalidRequest e.name), context)

/-- Calls the endpoint of a name. -/
def call (a : App) (name : String) (context : Context) (request : Json) :
    Except CallError Json × Context :=
  match a.find? name with
  | none => (.error (.unknownHandler name), context)
  | some e =>
    match a.screen e context request with
    | (.error error, context) => (.error error, context)
    | (.ok body, context) =>
      match body context with
      | (.error error, context) => (.error (.ofBody e.name error), context)
      | (.ok response, context) => (.ok response, context)

end App

end ServiceSchema
