/-
A growing set of records, at most one of each name, in the order they were put
in. A record is found by its name through an index of positions. Putting in a
record that is there already changes nothing; a different record of a name that
is taken is refused.
-/
import Std.Data.HashMap
import ServiceSchema.Shape

namespace ServiceSchema

/-- Records in order of insertion, and the position of each by its name. -/
structure RecordSet where
  records : Array Record
  index : Std.HashMap String Nat

/-- A name that two different records have. -/
structure NameCollision where
  name : String
deriving DecidableEq, Repr

namespace RecordSet

def empty : RecordSet := ⟨#[], ∅⟩

def contains (s : RecordSet) (name : String) : Bool := s.index.contains name

/-- The record of a name, found through the index. -/
def get? (s : RecordSet) (name : String) : Option Record :=
  (s.index[name]?).bind fun position => s.records[position]?

def size (s : RecordSet) : Nat := s.records.size

def isEmpty (s : RecordSet) : Bool := s.records.isEmpty

def toList (s : RecordSet) : List Record := s.records.toList

/-- Adds a record at the end, whatever is there. -/
def push (s : RecordSet) (r : Record) : RecordSet :=
  ⟨s.records.push r, s.index.insert r.name s.records.size⟩

/-- Puts in a record. The answer tells whether it is new. -/
def insert (s : RecordSet) (r : Record) : Except NameCollision (Bool × RecordSet) :=
  match s.index[r.name]? with
  | none => .ok (true, s.push r)
  | some position => if s.records[position]? = some r then .ok (false, s) else .error ⟨r.name⟩

end RecordSet

end ServiceSchema
