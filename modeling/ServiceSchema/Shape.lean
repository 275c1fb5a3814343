/-
The shapes of data that a service exchanges: scalars, records with numbered
fields, sequences and maps, nested at will. A record carries its fields in full,
so a shape is a finite tree and two records are equal when their trees are.
-/
namespace ServiceSchema

/-- A kind of plain value. `other` stands for a value that only its name tells. -/
inductive Scalar where
  | int8 | int16 | int32 | int64
  | uint8 | uint16 | uint32 | uint64
  | float32 | float64
  | bool | text | timestamp | duration
  | other (name : String)
deriving DecidableEq, Repr

mutual

/-- The shape of a value. -/
inductive Shape where
  | scalar (kind : Scalar)
  | record (r : Record)
  | sequence (element : Shape)
  | map (key value : Shape)

/-- A record: its name, and its fields in order of declaration. -/
structure Record where
  name : String
  fields : List Field

/-- A field of a record, with the number that identifies it in a message. -/
structure Field where
  name : String
  ordinal : UInt32
  shape : Shape

end

instance : Inhabited Record := ⟨⟨"", []⟩⟩
instance : Inhabited Shape := ⟨.scalar .bool⟩

namespace Scalar

/-- The name of a scalar in messages to people. -/
def name : Scalar → String
  | .int8 => "i8"
  | .int16 => "i16"
  | .int32 => "i32"
  | .int64 => "i64"
  | .uint8 => "u8"
  | .uint16 => "u16"
  | .uint32 => "u32"
  | .uint64 => "u64"
  | .float32 => "f32"
  | .float64 => "f64"
  | .bool => "bool"
  | .text => "String"
  | .timestamp => "SystemTime"
  | .duration => "Duration"
  | .other name => name

end Scalar

namespace Shape

/-- The name of the innermost shape: through sequences, and through the values of
maps. -/
def name : Shape → String
  | .scalar kind => kind.name
  | .record r => r.name
  | .sequence element => element.name
  | .map _ value => value.name

/-- How a shape is written in messages to people. -/
def display : Shape → String
  | .scalar kind => kind.name
  | .record r => r.name
  | .sequence element => "Vec<" ++ element.display ++ ">"
  | .map key value => "Map<" ++ key.display ++ ", " ++ value.display ++ ">"

def record? : Shape → Option Record
  | .record r => some r
  | _ => none

/-- The word for the outermost layer of a shape. -/
def kindLabel : Shape → String
  | .scalar _ => "scalar"
  | .record _ => "record"
  | .sequence _ => "sequence"
  | .map _ _ => "map"

end Shape

namespace Record

/-- A record without fields. -/
def bare (name : String) : Record := ⟨name, []⟩

/-- Adds a field at the end, with the next number. -/
def addField (r : Record) (name : String) (shape : Shape) : Record :=
  { r with fields := r.fields ++ [⟨name, UInt32.ofNat r.fields.length + 1, shape⟩] }

/-- The record with these fields, numbered from one. -/
def ofFields (name : String) (fields : List (String × Shape)) : Record :=
  fields.foldl (fun r (field, shape) => r.addField field shape) (bare name)

end Record

/-! ## Equality of shapes is decidable -/

mutual

def Shape.decEq : (a b : Shape) → Decidable (a = b)
  | .scalar a, .scalar b => decidable_of_iff (a = b) (by simp)
  | .record a, .record b => match Record.decEq a b with
    | isTrue h => isTrue (by rw [h])
    | isFalse h => isFalse (by simpa using h)
  | .sequence a, .sequence b => match Shape.decEq a b with
    | isTrue h => isTrue (by rw [h])
    | isFalse h => isFalse (by simpa using h)
  | .map a b, .map c d => match Shape.decEq a c, Shape.decEq b d with
    | isTrue h, isTrue h' => isTrue (by rw [h, h'])
    | isFalse h, _ => isFalse (by simp [h])
    | _, isFalse h => isFalse (by simp [h])
  | .scalar _, .record _ | .scalar _, .sequence _ | .scalar _, .map _ _
  | .record _, .scalar _ | .record _, .sequence _ | .record _, .map _ _
  | .sequence _, .scalar _ | .sequence _, .record _ | .sequence _, .map _ _
  | .map _ _, .scalar _ | .map _ _, .record _ | .map _ _, .sequence _ => isFalse (by simp)
termination_by structural a => a

def Record.decEq : (a b : Record) → Decidable (a = b)
  | ⟨n, fs⟩, ⟨m, gs⟩ =>
    if hn : n = m then match Field.decEqList fs gs with
      | isTrue h => isTrue (by rw [hn, h])
      | isFalse h => isFalse (by simp [h])
    else isFalse (by simp [hn])
termination_by structural a => a

def Field.decEqList : (a b : List Field) → Decidable (a = b)
  | [], [] => isTrue rfl
  | [], _ :: _ | _ :: _, [] => isFalse (by simp)
  | a :: as, b :: bs => match Field.decEq a b, Field.decEqList as bs with
    | isTrue h, isTrue h' => isTrue (by rw [h, h'])
    | isFalse h, _ => isFalse (by simp [h])
    | _, isFalse h => isFalse (by simp [h])
termination_by structural a => a

def Field.decEq : (a b : Field) → Decidable (a = b)
  | ⟨n, o, s⟩, ⟨m, p, t⟩ =>
    if hn : n = m ∧ o = p then match Shape.decEq s t with
      | isTrue h => isTrue (by rw [hn.1, hn.2, h])
      | isFalse h => isFalse (by simp [h])
    else isFalse (by simp; intro h h'; exact absurd ⟨h, h'⟩ hn)
termination_by structural a => a

end

instance : DecidableEq Shape := Shape.decEq
instance : DecidableEq Record := Record.decEq
instance : DecidableEq Field := Field.decEq

end ServiceSchema
