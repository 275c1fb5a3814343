/-
Shapes of declared types. A type is written with its arguments in angle brackets,
`HashMap<String, Vec<Part>>`, an array as `[T; n]` and a reference as `&T`.
Optional values and pointers have the shape of what they hold.
-/
import ServiceSchema.Samples.Types
import ServiceSchema.Text.Blank

namespace ServiceSchema.Samples

/-- The shape of a declared type applied to the shapes of its arguments. -/
def shapeOf? : String → List Shape → Option Shape
  | "i8", [] => some (.scalar .int8)
  | "i16", [] => some (.scalar .int16)
  | "i32", [] => some (.scalar .int32)
  | "i64", [] | "isize", [] => some (.scalar .int64)
  | "u8", [] => some (.scalar .uint8)
  | "u16", [] => some (.scalar .uint16)
  | "u32", [] => some (.scalar .uint32)
  | "u64", [] | "usize", [] => some (.scalar .uint64)
  | "f32", [] => some (.scalar .float32)
  | "f64", [] => some (.scalar .float64)
  | "bool", [] => some (.scalar .bool)
  | "char", [] | "str", [] | "String", [] => some text
  | "SystemTime", [] => some (.scalar .timestamp)
  | "Duration", [] => some (.scalar .duration)
  | "Option", [t] | "Box", [t] | "Arc", [t] | "Rc", [t] => some t
  | "Vec", [t] | "VecDeque", [t] | "BTreeSet", [t] | "HashSet", [t] => some (.sequence t)
  | "HashMap", [k, v] | "BTreeMap", [k, v] => some (.map k v)
  | "Part", [] => some partShape
  | "other::Part", [] | "OtherPart", [] => some codedPartShape
  | "Owner", [] => some ownerShape
  | "Empty", [] => some emptyShape
  | "Time", [] => some timeShape
  | "PageOf", [t] => some (pageShape t)
  | "Event", [] => some eventShape
  | "CustomerRecord", [] => some customerShape
  | "AllScalars", [] => some allScalarsShape
  | "Pair", [a, b] => some (pairShape a b)
  | "GetWidgetRequest", [] => some getWidgetRequestShape
  | "GetWidgetResponse", [] => some getWidgetResponseShape
  | "UpdateWidgetRequest", [] => some updateWidgetRequestShape
  | "UpdateWidgetResponse", [] => some updateWidgetResponseShape
  | "ListEventsRequest", [] => some listEventsRequestShape
  | "CountPartsRequest", [] => some countPartsRequestShape
  | "CountPartsResponse", [] => some countPartsResponseShape
  | "BadEncodeResponse", [] => some badEncodeResponseShape
  | "Kitchen", [] => some kitchenShape
  | "EchoRequest", [] => some echoRequestShape
  | "EchoResponse", [] => some echoResponseShape
  | _, _ => none

def isNameChar (c : Char) : Bool := c.isAlphanum || c == '_' || c == ':'

def skipBlank (cs : List Char) : List Char := cs.dropWhile Text.isBlank

/-- Drops a lifetime: an apostrophe and a name. -/
def skipLifetime (cs : List Char) : List Char :=
  match skipBlank cs with
  | '\'' :: rest => rest.dropWhile isNameChar
  | rest => rest

mutual

/-- Reads a type; each step takes a character, of which `fuel` are enough. -/
def readType : Nat → List Char → Option (Shape × List Char)
  | 0, _ => none
  | fuel + 1, cs =>
    match skipBlank cs with
    | '&' :: rest => readType fuel (skipLifetime rest)
    | '[' :: rest => do
      let (element, rest) ← readType fuel rest
      match rest.dropWhile (· != ']') with
      | _ :: rest => return (.sequence element, rest)
      | [] => none
    | cs => do
      let name := String.ofList (cs.takeWhile isNameChar)
      match skipBlank (cs.dropWhile isNameChar) with
      | '<' :: rest =>
        let (arguments, rest) ← readArguments fuel rest
        return (← shapeOf? name arguments, rest)
      | rest => return (← shapeOf? name [], rest)

/-- Reads the arguments of a type up to their closing bracket. -/
def readArguments : Nat → List Char → Option (List Shape × List Char)
  | 0, _ => none
  | fuel + 1, cs => do
    let (argument, rest) ← readType fuel cs
    match skipBlank rest with
    | '>' :: rest => return ([argument], rest)
    | ',' :: rest =>
      let (more, rest) ← readArguments fuel rest
      return (argument :: more, rest)
    | _ => none

end

/-- The shape of the declared type that a text names. -/
def shapeOfText? (s : String) : Option Shape :=
  match readType (s.length + 1) s.toList with
  | some (shape, rest) => if (skipBlank rest).isEmpty then some shape else none
  | none => none

end ServiceSchema.Samples
