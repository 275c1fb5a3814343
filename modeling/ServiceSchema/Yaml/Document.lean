/-
YAML documents as document trees. An anchor is a number: that of the names known
when it is set, so a name that is set again may share its number with a later one.
An alias goes by the number of its name, and in the end by the last node with it.
-/
import ServiceSchema.Yaml.Tree

namespace ServiceSchema.Yaml

/-- An anchored node: its number, its place among the anchored nodes, and itself. -/
structure Anchored where
  number : Nat
  place : Nat
  node : Node

/-- What is known of anchors while a document is read. -/
structure Anchors where
  /-- The names that have been set, each with its number. -/
  names : List (String × Nat) := []
  /-- How many anchored nodes have been met. -/
  met : Nat := 0
  nodes : List Anchored := []

namespace Anchors

/-- Sets a name. The answer has the number and the place of the node. -/
def set (a : Anchors) (name : String) : (Nat × Nat) × Anchors :=
  let number := a.names.length
  ((number, a.met),
    { a with names := (name, number) :: a.names.filter (·.1 ≠ name), met := a.met + 1 })

/-- Sets the name of a node, if it has one. -/
def start (a : Anchors) : Option String → Option (Nat × Nat) × Anchors
  | none => (none, a)
  | some name => let (key, a) := a.set name; (some key, a)

/-- Keeps the node of an anchor. -/
def keep (a : Anchors) (key : Option (Nat × Nat)) (node : Node) : Anchors :=
  match key with
  | none => a
  | some (number, place) => { a with nodes := ⟨number, place, node⟩ :: a.nodes }

/-- The last node of each number. -/
def table (a : Anchors) : List (Nat × Node) :=
  (a.nodes.mergeSort fun x y => y.place ≤ x.place).map fun x => (x.number, x.node)

end Anchors

mutual

/-- The node of a tree; there is none when an alias has no anchor before it. -/
def Tree.toNode (a : Anchors) : Tree → Option (Node × Anchors)
  | .scalar anchor text style tag =>
    let (key, a) := a.start anchor
    let node := .scalar text style tag
    some (node, a.keep key node)
  | .seq anchor items => do
    let (key, a) := a.start anchor
    let (items, a) ← Tree.toNodes a items
    return (.seq items, a.keep key (.seq items))
  | .map anchor entries => do
    let (key, a) := a.start anchor
    let (entries, a) ← Tree.toEntries a entries
    return (.map entries, a.keep key (.map entries))
  | .alias name => do
    let number ← a.names.lookup name
    return (.alias number, a)

def Tree.toNodes (a : Anchors) : List Tree → Option (List Node × Anchors)
  | [] => some ([], a)
  | tree :: rest => do
    let (node, a) ← tree.toNode a
    let (nodes, a) ← Tree.toNodes a rest
    return (node :: nodes, a)

def Tree.toEntries (a : Anchors) : List (Tree × Tree) → Option (List (Node × Node) × Anchors)
  | [] => some ([], a)
  | (key, value) :: rest => do
    let (key, a) ← key.toNode a
    let (value, a) ← value.toNode a
    let (entries, a) ← Tree.toEntries a rest
    return ((key, value) :: entries, a)

end

/-- Reads a text as a document tree, and says what its aliases stand for. A text without
a document is an empty scalar. -/
def read? (text : String) : Option (Node × Source) := do
  let tree ← Tree.ofTokens (← tokens? text)
  let (node, anchors) ← (tree.getD Tree.missing).toNode {}
  return (node, .yaml anchors.table)

end ServiceSchema.Yaml
