/-
The two ways to write a field line.
-/
namespace ServiceSchema

inductive Layout where
  /-- `name wireType = ordinal;` -/
  | nameFirst
  /-- `wireType name = ordinal;` -/
  | typeFirst
deriving DecidableEq, Repr

namespace Layout

def all : List Layout := [.nameFirst, .typeFirst]

/-- The layout's name in configuration files. -/
def name : Layout → String
  | .nameFirst => "name_first"
  | .typeFirst => "type_first"

/-- The layout's name on the command line. -/
def optionName : Layout → String
  | .nameFirst => "name-first"
  | .typeFirst => "type-first"

end Layout

end ServiceSchema
