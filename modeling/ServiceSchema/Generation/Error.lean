/-
What can go wrong while a schema is derived, written and compiled, and how it is
said.
-/
import ServiceSchema.Shape
import ServiceSchema.Generation.Timeout

namespace ServiceSchema

/-- The side of a handler that a shape belongs to. -/
inductive Role where
  | request | response
deriving DecidableEq, Repr

def Role.name : Role → String
  | .request => "request"
  | .response => "response"

inductive GenerationError where
  /-- A handler takes or gives something other than a record. -/
  | invalidHandler (handler : String) (role : Role) (found : Shape)
  /-- Two different records have one name. -/
  | nameCollision (name : String)
  /-- A directory or file could not be written. -/
  | io (path : String)
  | compilerSpawn (program : String)
  | compilerFailed (program status diagnostics : String)
  | compilerTimeout (program : String) (timeout : Timeout)
deriving DecidableEq

namespace GenerationError

def message : GenerationError → String
  | .invalidHandler handler role found =>
    "handler `" ++ handler ++ "`: " ++ role.name ++ " type must be a record, found "
      ++ found.kindLabel ++ " `" ++ found.display ++ "`"
  | .nameCollision name =>
    "record name collision: `" ++ name ++ "` is declared with two different shapes"
  | .io path => "failed to write schema file " ++ path
  | .compilerSpawn program => "failed to start schema compiler `" ++ program ++ "`"
  | .compilerFailed program status diagnostics =>
    "schema compiler `" ++ program ++ "` failed (" ++ status ++ "):\n" ++ diagnostics
  | .compilerTimeout program timeout =>
    "schema compiler `" ++ program ++ "` timed out after " ++ timeout.display

end GenerationError

end ServiceSchema
