/-
The tables of a TOML document while it is read. A header defines a table, and implies
the tables above it; a dotted key makes tables of its own. A table is defined once,
dotted keys do not reach into tables that a header has defined, and what is written
as a value stays as it is.
-/
import ServiceSchema.Node

namespace ServiceSchema.Toml

/-- How a table has come to be. -/
inductive Origin where
  /-- A header names it. -/
  | defined
  /-- A header names a table below it. -/
  | implied
  /-- A dotted key leads through it. -/
  | dotted
deriving DecidableEq

inductive Item where
  | value (node : Node)
  | table (origin : Origin) (entries : List (String × Item))
  /-- The tables of one array, the latest first. -/
  | tables (latest : List (String × Item)) (earlier : List Item)

/-- The entries of a table. -/
abbrev Entries := List (String × Item)

/-- Puts an item under a key, in place of the one there. -/
def Entries.set (entries : Entries) (key : String) (item : Item) : Entries :=
  match entries with
  | [] => [(key, item)]
  | (k, i) :: rest => if k = key then (k, item) :: rest else (k, i) :: Entries.set rest key item

mutual

def Item.toNode : Item → Node
  | .value node => node
  | .table _ entries => .map (Item.toNodes entries)
  | .tables latest earlier => .seq ((Item.toNodeList earlier).reverse ++ [.map (Item.toNodes latest)])

def Item.toNodes : List (String × Item) → List (Node × Node)
  | [] => []
  | (key, item) :: rest => (.text key, item.toNode) :: Item.toNodes rest

def Item.toNodeList : List Item → List Node
  | [] => []
  | item :: rest => item.toNode :: Item.toNodeList rest

end

namespace Entries

/-- Changes a table below another one, to which some keys lead. Missing tables are made.
The change is told how the table has come to be. -/
def change (dotted : Bool) (f : Origin → Entries → Option Entries) (origin : Origin) :
    List String → Entries → Option Entries
  | [], entries => f origin entries
  | key :: path, entries =>
    match entries.lookup key with
    | none => do
      let made := if dotted then Origin.dotted else .implied
      let inner ← change dotted f made path []
      return entries.set key (.table made inner)
    | some (.table origin inner) =>
      if dotted && origin = .defined then none
      else do
        let inner ← change dotted f origin path inner
        return entries.set key (.table origin inner)
    | some (.tables latest earlier) => do
      let latest ← change dotted f .defined path latest
      return entries.set key (.tables latest earlier)
    | some (.value _) => none

/-- Adds a value under a key that some others may precede. -/
def addValue (path : List String) (key : String) (node : Node) (entries : Entries) :
    Option Entries :=
  entries.change true (fun origin entries =>
    if decide (origin = .dotted) = path.isEmpty || (entries.lookup key).isSome then none
    else some (entries.set key (.value node))) .defined path

/-- Defines a table by a header. -/
def define (path : List String) (key : String) (entries : Entries) : Option Entries :=
  entries.change false (fun _ entries =>
    match entries.lookup key with
    | none => some (entries.set key (.table .defined []))
    | some (.table .implied inner) => some (entries.set key (.table .defined inner))
    | some _ => none) .defined path

/-- Adds a table to an array by a header. -/
def append (path : List String) (key : String) (entries : Entries) : Option Entries :=
  entries.change false (fun _ entries =>
    match entries.lookup key with
    | none => some (entries.set key (.tables [] []))
    | some (.tables latest earlier) =>
      some (entries.set key (.tables [] (.table .defined latest :: earlier)))
    | some _ => none) .defined path

/-- Adds a value to the table that a header has defined. -/
def addBelow (header path : List String) (key : String) (node : Node) (entries : Entries) :
    Option Entries :=
  entries.change false (fun _ entries => entries.addValue path key node) .defined header

end Entries

end ServiceSchema.Toml
