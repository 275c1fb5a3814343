/-
The HTTP methods under which a handler can be reached.
-/
import ServiceSchema.Text.Blank

namespace ServiceSchema

inductive HttpMethod where
  | get | post | put | patch | delete
deriving DecidableEq, Repr

namespace HttpMethod

def all : List HttpMethod := [.get, .post, .put, .patch, .delete]

/-- The method's name, in capitals. -/
def name : HttpMethod → String
  | .get => "GET"
  | .post => "POST"
  | .put => "PUT"
  | .patch => "PATCH"
  | .delete => "DELETE"

/-- The method as the key of a transcoding rule. -/
def verb : HttpMethod → String
  | .get => "get"
  | .post => "post"
  | .put => "put"
  | .patch => "patch"
  | .delete => "delete"

/-- Reads a method's name in any mixture of cases, between blank characters. -/
def ofName? (s : String) : Option HttpMethod :=
  let name := String.ofList ((Text.trimmed s.toList).map Char.toUpper)
  all.find? (·.name == name)

/-- What is said of a text that names no method. -/
def unsupported (s : String) : String :=
  "unsupported HTTP method `" ++ s ++ "` (expected GET, POST, PUT, PATCH or DELETE)"

end HttpMethod

end ServiceSchema
