/-
Reading TOML texts as document trees: lines of keys with values, and headers of
tables and arrays of tables.
-/
import ServiceSchema.Toml.Scalar
import ServiceSchema.Toml.Table

namespace ServiceSchema.Toml

/-! ## Keys -/

def isKeyChar (c : Char) : Bool := c.isAlphanum || c == '_' || c == '-'

/-- Reads one part of a key: a bare word, or a string on one line. -/
def readKeyPart (cs : List Char) : Option (String × List Char) :=
  match cs with
  | '"' :: rest => (readLine '"' (rest.length + 1) rest).map fun (s, rest) => (String.ofList s, rest)
  | '\'' :: rest =>
    (readLine '\'' (rest.length + 1) rest).map fun (s, rest) => (String.ofList s, rest)
  | cs =>
    let word := cs.takeWhile isKeyChar
    if word.isEmpty then none else some (String.ofList word, cs.dropWhile isKeyChar)

/-- How deep arrays and tables in braces are nested at most, and how many parts a key has
at most. -/
def nestingLimit : Nat := 80

/-- Reads the parts of a key between dots: those but the last, the last, and what follows
the key and its blanks. -/
def readKeyParts : Nat → List Char → Option (List String × String × List Char)
  | 0, _ => none
  | fuel + 1, cs => do
    let (part, rest) ← readKeyPart (skipSpace cs)
    match skipSpace rest with
    | '.' :: rest =>
      let (path, last, rest) ← readKeyParts fuel rest
      return (part :: path, last, rest)
    | rest => return ([], part, rest)

/-- Reads a key that has not too many parts. -/
def readKey (fuel : Nat) (cs : List Char) : Option (List String × String × List Char) :=
  (readKeyParts fuel cs).filter fun (path, _, _) => path.length < nestingLimit

/-! ## Values -/

mutual

/-- Reads a value inside so many others; each step takes a character, of which `fuel` are
enough. -/
def readValue : Nat → Nat → List Char → Option (Node × List Char)
  | 0, _, _ => none
  | fuel + 1, depth, cs =>
    match cs with
    | '"' :: rest => (readString '"' rest).map fun (s, rest) => (.text (String.ofList s), rest)
    | '\'' :: rest => (readString '\'' rest).map fun (s, rest) => (.text (String.ofList s), rest)
    | '[' :: rest => do
      if nestingLimit ≤ depth then none
      let (items, rest) ← readItems fuel (depth + 1) rest
      return (.seq items, rest)
    | '\x7b' :: rest => do
      if nestingLimit ≤ depth then none
      let (entries, rest) ← readEntries fuel (depth + 1) [] rest
      return (.map (Item.toNodes entries), rest)
    | cs => readWord cs

/-- Reads the items of an array up to its closing bracket. -/
def readItems : Nat → Nat → List Char → Option (List Node × List Char)
  | 0, _, _ => none
  | fuel + 1, depth, cs =>
    match skipLines (fuel + 1) cs with
    | ']' :: rest => some ([], rest)
    | cs => do
      let (item, rest) ← readValue fuel depth cs
      match skipLines (fuel + 1) rest with
      | ',' :: rest =>
        let (items, rest) ← readItems fuel depth rest
        return (item :: items, rest)
      | ']' :: rest => return ([item], rest)
      | _ => none

/-- Reads the entries of a table in braces up to the closing one. -/
def readEntries : Nat → Nat → Entries → List Char → Option (Entries × List Char)
  | 0, _, _, _ => none
  | fuel + 1, depth, entries, cs =>
    match skipLines (fuel + 1) cs with
    | '\x7d' :: rest => some (entries, rest)
    | cs => do
      let (path, key, rest) ← readKey fuel cs
      let (node, rest) ← readValue fuel depth (skipSpace (← expect '=' rest))
      let entries ← entries.addValue path key node
      match skipLines (fuel + 1) rest with
      | ',' :: rest => readEntries fuel depth entries rest
      | '\x7d' :: rest => return (entries, rest)
      | _ => none

end

/-! ## Documents -/

/-- Passes over the end of a line that has nothing more than blanks and a comment. -/
def endLine? (cs : List Char) : Option (List Char) :=
  match skipComment (skipSpace cs) with
  | [] => some []
  | cs => newline? cs

/-- Reads the lines of a document, those after a header into its table. -/
def readLinesInto : Nat → List String → Entries → List Char → Option Entries
  | 0, _, _, _ => none
  | fuel + 1, header, entries, cs =>
    match skipLines (fuel + 1) cs with
    | [] => some entries
    | '[' :: '[' :: rest => do
      let (path, key, rest) ← readKey fuel rest
      let rest ← endLine? (← expect ']' (← expect ']' rest))
      readLinesInto fuel (path ++ [key]) (← entries.append path key) rest
    | '[' :: rest => do
      let (path, key, rest) ← readKey fuel rest
      let rest ← endLine? (← expect ']' rest)
      readLinesInto fuel (path ++ [key]) (← entries.define path key) rest
    | cs => do
      let (path, key, rest) ← readKey fuel cs
      let (node, rest) ← readValue fuel 0 (skipSpace (← expect '=' rest))
      let entries ← entries.addBelow header path key node
      readLinesInto fuel header entries (← endLine? rest)

/-- Reads a text as a document tree. A byte order mark may stand in front. -/
def read? (text : String) : Option Node :=
  let cs := match text.toList with
    | c :: rest => if c.toNat = 0xFEFF then rest else c :: rest
    | [] => []
  (readLinesInto (cs.length + 2) [] [] cs).map fun entries => .map (Item.toNodes entries)

end ServiceSchema.Toml
