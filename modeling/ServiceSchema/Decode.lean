/-
Decoding document trees. A decoder takes a tree and where it comes from, and gives
a value or the first fault in document order. Records are described field by
field: from the entries of a map in any order, each field at most once and unknown
ones skipped, or from a sequence in order of declaration.
-/
import ServiceSchema.Keyed.Table
import ServiceSchema.Node
import ServiceSchema.Text.Quoted
import ServiceSchema.Yaml.Number

namespace ServiceSchema

/-! ## What decoding can find wrong -/

/-- What stands in a tree, as an error shows it. -/
inductive Found where
  | null
  | bool (b : Bool)
  | integer (n : Int)
  | decimal (digits : String)
  | text (s : String)
  | sequence
  | map
deriving DecidableEq, Repr

/-- What a decoder looks for, as an error shows it. -/
inductive Expected where
  | text
  | path
  | bool
  | char
  | unit
  | integer (signed : Bool) (bits : Nat)
  | sequence
  | array (size : Nat)
  | map
  | variant
  | record (name : String)
  | recordOf (name : String) (fields : Nat)
  | fewerItems
deriving DecidableEq, Repr

inductive DecodeError where
  /-- The text is not well formed, or its notation has nothing of the kind. -/
  | malformed
  | invalidType (found : Found) (expected : Expected)
  | invalidValue (found : Found) (expected : Expected)
  | invalidLength (length : Nat) (expected : Expected)
  | missingField (name : String)
  | duplicateField (name : String)
  | unknownVariant (name : String) (known : List String)
  /-- A value that its own type refuses, and why. -/
  | refused (reason : String)
deriving DecidableEq, Repr

def Found.display : Found → String
  | .null => "null"
  | .bool b => "boolean `" ++ (if b then "true" else "false") ++ "`"
  | .integer n => "integer `" ++ toString n ++ "`"
  | .decimal digits => "floating point `" ++ digits ++ "`"
  | .text s => "string " ++ Text.quote s
  | .sequence => "sequence"
  | .map => "map"

def Expected.display : Expected → String
  | .text => "a string"
  | .path => "path string"
  | .bool => "a boolean"
  | .char => "a character"
  | .unit => "unit"
  | .integer signed bits => (if signed then "i" else "u") ++ toString bits
  | .sequence => "a sequence"
  | .array size => "an array of length " ++ toString size
  | .map => "a map"
  | .variant => "variant identifier"
  | .record name => "struct " ++ name
  | .recordOf name fields =>
    "struct " ++ name ++ " with " ++ toString fields ++ (if fields = 1 then " element" else " elements")
  | .fewerItems => "fewer elements in array"

/-- Names in backquotes: one, two with `or`, or a list of more. -/
def alternatives : List String → String
  | [] => "there are no variants"
  | [a] => "expected `" ++ a ++ "`"
  | [a, b] => "expected `" ++ a ++ "` or `" ++ b ++ "`"
  | names => "expected one of " ++ ", ".intercalate (names.map fun a => "`" ++ a ++ "`")

namespace DecodeError

/-- What is said of an error; nothing of a malformed text. -/
def message? : DecodeError → Option String
  | .malformed => none
  | .invalidType found expected =>
    some ("invalid type: " ++ found.display ++ ", expected " ++ expected.display)
  | .invalidValue found expected =>
    some ("invalid value: " ++ found.display ++ ", expected " ++ expected.display)
  | .invalidLength length expected =>
    some ("invalid length " ++ toString length ++ ", expected " ++ expected.display)
  | .missingField name => some ("missing field `" ++ name ++ "`")
  | .duplicateField name => some ("duplicate field `" ++ name ++ "`")
  | .unknownVariant name known => some ("unknown variant `" ++ name ++ "`, " ++ alternatives known)
  | .refused reason => some reason

end DecodeError

/-- Reads a value of some type from a tree. -/
abbrev Decoder (α : Type) := Source → Node → Except DecodeError α

namespace Node

/-- What stands in a node, where its notation has types. -/
def found? : Node → Option Found
  | .null => some .null
  | .bool b => some (.bool b)
  | .integer n => some (.integer n)
  | .decimal digits => some (.decimal digits)
  | .text s => some (.text s)
  | .seq _ => some .sequence
  | .map _ => some .map
  | _ => none

/-- The error of a node that is not of the kind looked for. -/
def mismatch (node : Node) (expected : Expected) : DecodeError :=
  match node.found? with
  | some found => .invalidType found expected
  | none => .malformed

/-- Whether a node is an untyped scalar with nothing written. -/
def isBlankScalar : Node → Bool
  | .scalar s .plain _ => s.isEmpty
  | _ => false

end Node

/-- Items left over after the last field of a record or item of an array: the text
is broken there, the value too long, or nobody minds. -/
def Source.surplus (source : Source) (items : List Node) (rest : List Node) :
    Except DecodeError Unit :=
  if rest.isEmpty then .ok ()
  else match source with
    | .memory => .error (.invalidLength items.length .fewerItems)
    | .toml => .ok ()
    | _ => .error .malformed

namespace Decode

/-! ## Plain values -/

/-- A text, said to be of the given kind when it is something else. -/
def textAs (expected : Expected) : Decoder String := fun source node =>
  match source.follow node with
  | .text s => .ok s
  | .scalar s _ _ => .ok s
  | node => .error (node.mismatch expected)

def text : Decoder String := textAs .text

/-- The path of a file. -/
def path : Decoder String := textAs .path

def bool : Decoder Bool := fun source node =>
  match source.follow node with
  | .bool b => .ok b
  | node => .error (node.mismatch .bool)

/-- A text of one character. -/
def char : Decoder Char := fun source node =>
  match source.follow node with
  | .text s =>
    match s.toList with
    | [c] => .ok c
    | _ => .error (.invalidValue (.text s) .char)
  | node => .error (node.mismatch .char)

/-- An integer from `least` to `greatest`. -/
def integerWithin (signed : Bool) (bits : Nat) (least greatest : Int) : Decoder Int :=
  fun source node =>
    match source.follow node with
    | .integer n =>
      if least ≤ n ∧ n ≤ greatest then .ok n
      else .error (.invalidValue (.integer n) (.integer signed bits))
    | .scalar s style tag =>
      match Yaml.unsigned? s style tag with
      | some n => if (n : Int) ≤ greatest then .ok n else .error .malformed
      | none => .error .malformed
    | node => .error (node.mismatch (.integer signed bits))

/-- An integer of so many bits without sign. -/
def unsigned (bits : Nat) : Decoder Nat := fun source node =>
  (integerWithin false bits 0 ((Nat.pow 2 bits : Nat) - 1) source node).map Int.toNat

/-- An integer of so many bits with a sign. -/
def signed (bits : Nat) : Decoder Int :=
  integerWithin true bits (-(Nat.pow 2 (bits - 1) : Nat)) ((Nat.pow 2 (bits - 1) : Nat) - 1)

def uint32 : Decoder UInt32 := fun source node =>
  (unsigned 32 source node).map UInt32.ofNat

def uint64 : Decoder UInt64 := fun source node =>
  (unsigned 64 source node).map UInt64.ofNat

/-- A value that may be absent, which is written as a null. -/
def option {α : Type} (decode : Decoder α) : Decoder (Option α) := fun source node =>
  match source.follow node with
  | .null => .ok none
  | .scalar s style tag =>
    match Yaml.isNull s style tag with
    | some true => .ok none
    | some false => (decode source (.scalar s style tag)).map some
    | none => .error .malformed
  | node => (decode source node).map some

/-! ## Collections -/

def items {α : Type} (decode : Decoder α) (source : Source) : List Node → Except DecodeError (List α)
  | [] => .ok []
  | node :: rest => do
    let item ← decode source node
    let more ← items decode source rest
    return item :: more

def list {α : Type} (decode : Decoder α) : Decoder (List α) := fun source node =>
  match source.follow node with
  | .seq nodes => items decode source nodes
  | node => if node.isBlankScalar then .ok [] else .error (node.mismatch .sequence)

/-- A sequence of a fixed number of items. -/
def array {α : Type} (size : Nat) (decode : Decoder α) : Decoder (List α) := fun source node =>
  match source.follow node with
  | .seq nodes => do
    let read ← items decode source (nodes.take size)
    if read.length < size then throw (.invalidLength read.length (.array size))
    source.surplus nodes (nodes.drop size)
    return read
  | node => .error (node.mismatch (.array size))

/-- The key of an entry. -/
def key (source : Source) (node : Node) : Except DecodeError String :=
  match source.follow node with
  | .text s => .ok s
  | .scalar s _ _ => .ok s
  | _ => .error .malformed

def entries {α : Type} (decode : Decoder α) (source : Source) (table : Table α) :
    List (Node × Node) → Except DecodeError (Table α)
  | [] => .ok table
  | (k, v) :: rest => do
    let name ← key source k
    let value ← decode source v
    entries decode source (table.insert name value) rest

/-- A map from texts; a later entry replaces an earlier one with its key. -/
def table {α : Type} (decode : Decoder α) : Decoder (Table α) := fun source node =>
  match source.follow node with
  | .map nodes => entries decode source .empty nodes
  | node => if node.isBlankScalar then .ok .empty else .error (node.mismatch .map)

/-- Passes over a value that nobody asked for. -/
def skip (node : Node) : Except DecodeError Unit :=
  if node.isBroken then .error .malformed else .ok ()

/-! ## Alternatives without content -/

/-- The alternative of a name. -/
def pick {α : Type} (known : List (String × α)) (name : String) : Except DecodeError α :=
  match known.lookup name with
  | some value => .ok value
  | none => .error (.unknownVariant name (known.map (·.1)))

/-- The content of an alternative written as an entry, which has none. -/
def noContent (source : Source) (node : Node) : Except DecodeError Unit :=
  match source, node with
  | .toml, .seq [] | .toml, .map [] => .ok ()
  | .toml, _ => .error .malformed
  | _, .null => .ok ()
  | _, node => .error (node.mismatch .unit)

/-- One of several named alternatives: its name, or the name with nothing under it. -/
def variant {α : Type} (known : List (String × α)) : Decoder α := fun source node =>
  match source.follow node with
  | .text s => pick known s
  | .scalar s style tag =>
    match tag.bind Yaml.localTag? with
    | none => pick known s
    | some name => do
      let value ← pick known name
      if style = .plain && (s.isEmpty || Yaml.isNullWord s) then return value
      throw .malformed
  | .map ((k, v) :: rest) => do
    let name ← textAs .variant source k
    let value ← pick known name
    noContent source v
    if rest.isEmpty then return value
    throw .malformed
  | _ => .error .malformed

end Decode

/-! ## Records -/

/-- Some fields of a record, and how each of them is read. -/
structure Fields (α : Type) where
  /-- What has been read of the fields. -/
  Slots : Type
  start : Slots
  count : Nat
  /-- Reads an entry; there is no answer when no field has its name. -/
  put : Source → Slots → String → Node → Option (Except DecodeError Slots)
  /-- The value, once all entries have been read. -/
  finish : Slots → Except DecodeError α
  /-- Reads the fields from the front of a sequence, of which so many items have been
  taken. The function is the error of a sequence that ends too early. -/
  take : Source → (Nat → DecodeError) → Nat → List Node → Except DecodeError (α × List Node)

namespace Fields

variable {α β : Type}

/-- No field at all. -/
def none (value : α) : Fields α where
  Slots := Unit
  start := ()
  count := 0
  put _ _ _ _ := Option.none
  finish _ := .ok value
  take _ _ _ nodes := .ok (value, nodes)

/-- One field with several names, of which the first is used in errors. The values
are those of a map without the field, and of a sequence that ends before it. -/
def one (name : String) (others : List String) (decode : Decoder α)
    (missing : Except DecodeError α) (short : Option α) : Fields α where
  Slots := Option α
  start := Option.none
  count := 1
  put source slot key node :=
    if key = name ∨ key ∈ others then
      some (match slot with
        | some _ => .error (.duplicateField name)
        | Option.none => (decode source node).map some)
    else Option.none
  finish slot :=
    match slot with
    | some value => .ok value
    | Option.none => missing
  take source tooShort taken nodes :=
    match nodes, short with
    | node :: rest, _ => (decode source node).map (·, rest)
    | [], some value => .ok (value, [])
    | [], Option.none => .error (tooShort taken)

/-- A field that has to be there. -/
def required (name : String) (decode : Decoder α) : Fields α :=
  one name [] decode (.error (.missingField name)) Option.none

/-- A field that may be left out, which has a value of its own then. -/
def withDefault (name : String) (value : α) (decode : Decoder α) (others : List String := []) :
    Fields α :=
  one name others decode (.ok value) (some value)

/-- A field that is absent when a map leaves it out; a sequence must have it. -/
def optional (name : String) (decode : Decoder α) : Fields (Option α) :=
  one name [] (Decode.option decode) (.ok Option.none) Option.none

def map (f : α → β) (a : Fields α) : Fields β where
  Slots := a.Slots
  start := a.start
  count := a.count
  put := a.put
  finish slots := (a.finish slots).map f
  take source tooShort taken nodes :=
    (a.take source tooShort taken nodes).map fun (value, rest) => (f value, rest)

/-- First some fields, then others. -/
def followedBy (f : Fields (α → β)) (a : Fields α) : Fields β where
  Slots := f.Slots × a.Slots
  start := (f.start, a.start)
  count := f.count + a.count
  put source slots key node :=
    match f.put source slots.1 key node with
    | some result => some (result.map (·, slots.2))
    | Option.none => (a.put source slots.2 key node).map (·.map (slots.1, ·))
  finish slots := do
    let g ← f.finish slots.1
    let value ← a.finish slots.2
    return g value
  take source tooShort taken nodes := do
    let (g, nodes) ← f.take source tooShort taken nodes
    let (value, nodes) ← a.take source tooShort (taken + f.count) nodes
    return (g value, nodes)

instance : Functor Fields where
  map := map

instance : Seq Fields where
  seq f a := followedBy f (a ())

/-- Reads the entries of a map one after the other. -/
def enter (fields : Fields α) (source : Source) (slots : fields.Slots) :
    List (Node × Node) → Except DecodeError fields.Slots
  | [] => .ok slots
  | (k, v) :: rest => do
    let name ← Decode.key source k
    match fields.put source slots name v with
    | some result =>
      let slots ← result
      enter fields source slots rest
    | Option.none =>
      Decode.skip v
      enter fields source slots rest

end Fields

/-- A record of the given name. -/
def Decode.record {α : Type} (name : String) (fields : Fields α) : Decoder α := fun source node =>
  match source.follow node with
  | .map entries => do
    let slots ← fields.enter source fields.start entries
    fields.finish slots
  | .seq nodes =>
    if source.recordsAsSequences then do
      let tooShort := fun taken => .invalidLength taken (.recordOf name fields.count)
      let (value, rest) ← fields.take source tooShort 0 nodes
      source.surplus nodes rest
      return value
    else .error .malformed
  | node =>
    if node.isBlankScalar then fields.finish fields.start
    else .error (node.mismatch (.record name))

end ServiceSchema
