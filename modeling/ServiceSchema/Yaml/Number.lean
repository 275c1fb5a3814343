/-
What an untyped YAML scalar can be read as, once the reader knows what it wants:
an integer without sign, or nothing.
-/
import ServiceSchema.Node

namespace ServiceSchema.Yaml

/-- The tag of integers and that of nulls, as they are written in full. -/
def integerTag : String := "tag:yaml.org,2002:int"
def nullTag : String := "tag:yaml.org,2002:null"

/-- The value of a digit, in bases up to sixteen. -/
def digit? (base : Nat) (c : Char) : Option Nat :=
  let value :=
    if c.isDigit then c.toNat - '0'.toNat
    else if 'a' ≤ c && c ≤ 'f' then c.toNat - 'a'.toNat + 10
    else if 'A' ≤ c && c ≤ 'F' then c.toNat - 'A'.toNat + 10
    else base
  if value < base then some value else none

/-- The number of at least one digit. -/
def digits? (base : Nat) : List Char → Option Nat
  | [] => none
  | cs => cs.foldlM (fun n c => (digit? base c).map (base * n + ·)) 0

/-- Whether digits have a zero in front, which makes them a text. -/
def leadsWithZero : List Char → Bool
  | '0' :: c :: rest => (c :: rest).all Char.isDigit
  | _ => false

/-- Reads decimal digits, or digits after a prefix that gives their base; a plus may
stand in front. -/
def readUnsigned? (cs : List Char) : Option Nat :=
  let cs := match cs with
    | '+' :: rest => rest
    | _ => cs
  match cs with
  | '0' :: 'x' :: rest => digits? 16 rest
  | '0' :: 'o' :: rest => digits? 8 rest
  | '0' :: 'b' :: rest => digits? 2 rest
  | cs => if leadsWithZero cs then none else digits? 10 cs

/-- The integer that a scalar is. Only a plain scalar is one, or a literal one with
the tag of integers. -/
def unsigned? (s : String) (style : ScalarStyle) (tag : Option String) : Option Nat :=
  match style with
  | .plain => readUnsigned? s.toList
  | .literal => if tag = some integerTag then readUnsigned? s.toList else none
  | .other => none

/-- Whether a text is one of the words for nothing. -/
def isNullWord (s : String) : Bool :=
  s == "null" || s == "Null" || s == "NULL" || s == "~"

/-- Whether a scalar is nothing; there is no answer when its tag says so and its text
does not. -/
def isNull (s : String) (style : ScalarStyle) (tag : Option String) : Option Bool :=
  match style, tag with
  | .plain, none => some (s.isEmpty || isNullWord s)
  | .plain, some tag =>
    if tag = nullTag then (if isNullWord s then some true else none) else some false
  | _, _ => some false

/-- The name in a tag that starts with an exclamation mark. -/
def localTag? (tag : String) : Option String :=
  match tag.toList with
  | '!' :: c :: rest => some (String.ofList (c :: rest))
  | '!' :: [] => some "!"
  | _ => none

end ServiceSchema.Yaml
