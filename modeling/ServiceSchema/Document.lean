/-
A schema as a document: header, messages and one service, each with the texts
that stand in it. Rendering writes the blocks one below the other; nothing in a
text is escaped.
-/
import ServiceSchema.Layout

namespace ServiceSchema

/-- A field line of a message. -/
structure FieldLine where
  name : String
  wireType : String
  ordinal : UInt32
deriving DecidableEq, Repr

structure Message where
  name : String
  fields : List FieldLine
deriving DecidableEq, Repr

/-- A method of the service, with the HTTP rule under which it is reached. -/
structure Rpc where
  name : String
  input : String
  output : String
  verb : String
  route : String
deriving DecidableEq, Repr

structure Document where
  syntaxName : String
  package : String
  imports : List String
  goPackage : String
  messages : List Message
  service : String
  rpcs : List Rpc
  layout : Layout
deriving DecidableEq, Repr

/-! ## Rendering -/

def FieldLine.render (layout : Layout) (f : FieldLine) : String :=
  let ordinal := toString f.ordinal.toNat
  match layout with
  | .nameFirst => "\n    " ++ f.name ++ " " ++ f.wireType ++ " = " ++ ordinal ++ ";"
  | .typeFirst => "\n    " ++ f.wireType ++ " " ++ f.name ++ " = " ++ ordinal ++ ";"

def Message.render (layout : Layout) (m : Message) : String :=
  "\nmessage " ++ m.name ++ " \x7b" ++ String.join (m.fields.map (·.render layout)) ++ "\n\x7d\n"

def Rpc.render (r : Rpc) : String :=
  "\n    rpc " ++ r.name ++ " (" ++ r.input ++ ") returns (" ++ r.output ++ ") \x7b"
    ++ "\n        option (google.api.http) = \x7b"
    ++ "\n            " ++ r.verb ++ ": \"" ++ r.route ++ "\""
    ++ "\n            body: \"*\""
    ++ "\n        \x7d;"
    ++ "\n    \x7d"

namespace Document

def renderImport (path : String) : String :=
  "\nimport \"" ++ path ++ "\";"

/-- The option line, left out when there is no package. -/
def renderGoPackage (package : String) : String :=
  if package.isEmpty then "" else "\n\noption go_package = \"" ++ package ++ "\";"

/-- The text of a schema file. -/
def render (d : Document) : String :=
  "syntax = \"" ++ d.syntaxName ++ "\";\n\npackage " ++ d.package ++ ";\n"
    ++ String.join (d.imports.map renderImport)
    ++ renderGoPackage d.goPackage
    ++ "\n"
    ++ String.join (d.messages.map (·.render d.layout))
    ++ "\nservice " ++ d.service ++ " \x7b"
    ++ String.join (d.rpcs.map Rpc.render)
    ++ "\n\x7d"

end Document

end ServiceSchema
