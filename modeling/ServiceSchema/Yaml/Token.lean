/-
The tokens of a YAML text. Where blocks begin and end is told by indentation, and a
key is only known to be one when its colon comes; tokens say both outright.
-/
import ServiceSchema.Node

namespace ServiceSchema.Yaml

inductive Token where
  | version (major minor : Nat)
  | tagHandle (handle start : String)
  | documentStart
  | documentEnd
  | blockSequence
  | blockMapping
  | blockEnd
  | openSequence
  | closeSequence
  | openMapping
  | closeMapping
  | blockEntry
  | flowEntry
  | key
  | value
  | alias (name : String)
  | anchor (name : String)
  | tag (handle suffix : String)
  | scalar (text : String) (style : ScalarStyle)
deriving DecidableEq, Repr

end ServiceSchema.Yaml
