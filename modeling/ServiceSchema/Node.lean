/-
Document trees, as decoders see them. A tree comes from a file in one of several
notations or from a value in memory; what a notation leaves open stays open in
the tree. A scalar of a notation without types is kept as it is written. Where a
text stops being well formed the tree ends in a broken node, so that what stands
before that point can still be judged first.
-/
namespace ServiceSchema

/-- How an untyped scalar is written. -/
inductive ScalarStyle where
  | plain
  | literal
  | other
deriving DecidableEq, Repr

inductive Node where
  | null
  | bool (b : Bool)
  | integer (n : Int)
  /-- A number that is no integer, by its shortest decimal. -/
  | decimal (digits : String)
  | text (s : String)
  | seq (items : List Node)
  | map (entries : List (Node × Node))
  /-- A scalar of a notation without types. -/
  | scalar (s : String) (style : ScalarStyle) (tag : Option String)
  /-- The node of the anchor with this number. -/
  | alias (anchor : Nat)
  /-- Well formed, but without a value: nothing can be decoded from it. -/
  | opaqueValue
  /-- The text is not well formed here, and what follows is not read. -/
  | broken

namespace Node

instance : Inhabited Node := ⟨.broken⟩

mutual

/-- Whether a tree is broken somewhere. -/
def isBroken : Node → Bool
  | .broken => true
  | .seq items => anyBroken items
  | .map entries => anyEntryBroken entries
  | _ => false

def anyBroken : List Node → Bool
  | [] => false
  | node :: rest => node.isBroken || anyBroken rest

def anyEntryBroken : List (Node × Node) → Bool
  | [] => false
  | (key, value) :: rest => key.isBroken || value.isBroken || anyEntryBroken rest

end

end Node

/-- Where a tree comes from, as far as decoding depends on it. -/
inductive Source where
  /-- A JSON text. -/
  | json
  /-- A value in memory. -/
  | memory
  /-- A YAML text, with the nodes of its anchors. -/
  | yaml (anchors : List (Nat × Node))
  /-- A TOML text. -/
  | toml

namespace Source

/-- The node that stands for an alias; any other node stands for itself. -/
def follow (source : Source) (node : Node) : Node :=
  match source, node with
  | .yaml anchors, .alias anchor => (anchors.lookup anchor).getD .broken
  | _, node => node

/-- Whether a record may be written as the sequence of its fields. -/
def recordsAsSequences : Source → Bool
  | .yaml _ => false
  | _ => true

end Source

end ServiceSchema
