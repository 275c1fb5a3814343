/-
JSON values, and their texts. Entries of an object keep the order they are given
in; `sorted` puts them in the order of their keys, which is how values are shown.
-/
import ServiceSchema.Keyed.Table
import ServiceSchema.Node
import ServiceSchema.Text.Quoted

namespace ServiceSchema

inductive Json where
  | null
  | bool (b : Bool)
  | integer (n : Int)
  /-- A number that is no integer, by its shortest decimal. -/
  | decimal (digits : String)
  | text (s : String)
  | array (items : List Json)
  | object (entries : List (String × Json))

namespace Json

instance : Inhabited Json := ⟨.null⟩

/-- The entry of an object under a key. -/
def get? (key : String) : Json → Option Json
  | .object entries => entries.lookup key
  | _ => none

/-! ## Values and document trees -/

mutual

/-- A value as a document tree. -/
def toNode : Json → Node
  | .null => .null
  | .bool b => .bool b
  | .integer n => .integer n
  | .decimal digits => .decimal digits
  | .text s => .text s
  | .array items => .seq (toNodes items)
  | .object entries => .map (toNodeEntries entries)

def toNodes : List Json → List Node
  | [] => []
  | item :: rest => item.toNode :: toNodes rest

def toNodeEntries : List (String × Json) → List (Node × Node)
  | [] => []
  | (key, value) :: rest => (.text key, value.toNode) :: toNodeEntries rest

end

mutual

/-- The value of a document tree, if it is one. -/
def ofNode? : Node → Option Json
  | .null => some .null
  | .bool b => some (.bool b)
  | .integer n => some (.integer n)
  | .decimal digits => some (.decimal digits)
  | .text s => some (.text s)
  | .seq items => (ofNodes? items).map .array
  | .map entries => (ofEntries? entries).map .object
  | _ => none

def ofNodes? : List Node → Option (List Json)
  | [] => some []
  | node :: rest => do
    let item ← ofNode? node
    let items ← ofNodes? rest
    return item :: items

def ofEntries? : List (Node × Node) → Option (List (String × Json))
  | [] => some []
  | (.text key, node) :: rest => do
    let value ← ofNode? node
    let entries ← ofEntries? rest
    return (key, value) :: entries
  | _ :: _ => none

end

/-! ## Order of entries -/

mutual

/-- The value with the entries of every object in the order of their keys. -/
def sorted : Json → Json
  | .array items => .array (sortedItems items)
  | .object entries => .object (sortedEntries entries)
  | value => value

def sortedItems : List Json → List Json
  | [] => []
  | item :: rest => item.sorted :: sortedItems rest

def sortedEntries : List (String × Json) → List (String × Json)
  | [] => []
  | (key, value) :: rest => Keyed.insertNew key value.sorted (sortedEntries rest)

end

/-! ## Texts -/

def escape (c : Char) : String :=
  match c with
  | '"' => "\\\""
  | '\\' => "\\\\"
  | '\n' => "\\n"
  | '\r' => "\\r"
  | '\t' => "\\t"
  | c =>
    if c.toNat = 8 then "\\b"
    else if c.toNat = 12 then "\\f"
    else if c.toNat < 0x20 then
      "\\u00" ++ (if c.toNat < 16 then "0" else "") ++ Text.hex c.toNat
    else c.toString

def quoted (s : String) : String :=
  "\"" ++ String.join (s.toList.map escape) ++ "\""

def boolText (b : Bool) : String := if b then "true" else "false"

mutual

/-- The text of a value on one line, without spaces. -/
def compact : Json → String
  | .null => "null"
  | .bool b => boolText b
  | .integer n => toString n
  | .decimal digits => digits
  | .text s => quoted s
  | .array items => "[" ++ ",".intercalate (compactItems items) ++ "]"
  | .object entries => "\x7b" ++ ",".intercalate (compactEntries entries) ++ "\x7d"

def compactItems : List Json → List String
  | [] => []
  | item :: rest => item.compact :: compactItems rest

def compactEntries : List (String × Json) → List String
  | [] => []
  | (key, value) :: rest => (quoted key ++ ":" ++ value.compact) :: compactEntries rest

end

/-- A line break, and two spaces for each level. -/
def newline (level : Nat) : String :=
  "\n" ++ String.ofList (List.replicate (2 * level) ' ')

/-- Lines between two brackets, one level further in; nothing between the brackets
when there is no line. -/
def block (level : Nat) (opening closing : String) (lines : List String) : String :=
  if lines.isEmpty then opening ++ closing
  else opening ++ newline (level + 1) ++ ("," ++ newline (level + 1)).intercalate lines
    ++ newline level ++ closing

mutual

/-- The text of a value over several lines, inside `level` brackets. -/
def indented (level : Nat) : Json → String
  | .array items => block level "[" "]" (indentedItems (level + 1) items)
  | .object entries => block level "\x7b" "\x7d" (indentedEntries (level + 1) entries)
  | .null => "null"
  | .bool b => boolText b
  | .integer n => toString n
  | .decimal digits => digits
  | .text s => quoted s

def indentedItems (level : Nat) : List Json → List String
  | [] => []
  | item :: rest => item.indented level :: indentedItems level rest

def indentedEntries (level : Nat) : List (String × Json) → List String
  | [] => []
  | (key, value) :: rest =>
    (quoted key ++ ": " ++ value.indented level) :: indentedEntries level rest

end

/-- The text of a value over several lines. -/
def pretty (value : Json) : String := value.indented 0

end Json

end ServiceSchema
