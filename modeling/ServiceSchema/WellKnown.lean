/-
Well-known types: record names that stand for a message defined elsewhere. A
record with such a name gets no message of its own; it is written as the message
of its table entry, whose file is imported.
-/
import ServiceSchema.Keyed.Table

namespace ServiceSchema

/-- What a well-known record name stands for. -/
structure WellKnownType where
  /-- The name written in its place. -/
  wireType : String
  /-- The file that defines it, when one has to be imported. -/
  importPath : Option String
deriving DecidableEq, Repr

/-- The well-known types of a service, by record name. -/
abbrev WellKnownTypes := Table WellKnownType

namespace WellKnownTypes

def timestampName : String := "google.protobuf.Timestamp"
def timestampFile : String := "google/protobuf/timestamp.proto"
def durationName : String := "google.protobuf.Duration"
def durationFile : String := "google/protobuf/duration.proto"

/-- The table in use unless a configuration changes it. -/
def standard : WellKnownTypes :=
  Table.ofList
    [("Time", ⟨timestampName, some timestampFile⟩), ("Duration", ⟨durationName, some durationFile⟩)]

end WellKnownTypes

end ServiceSchema
