/-
Finding the records that a schema has to define. From a record the walk goes
through its fields in order, to the record that each field is or wraps: inside
sequences and the values of maps. A record is taken in before its own fields are
walked; one that is known already, and one with a well-known name, is not walked.
-/
import ServiceSchema.Handler
import ServiceSchema.RecordSet
import ServiceSchema.WellKnown

namespace ServiceSchema

/-- The state of a walk: what has been found, and the collision that ended it. -/
structure Walk where
  found : RecordSet
  collision : Option NameCollision := none

mutual

/-- Walks from a shape to the record that it is or wraps. -/
def Shape.discoverInto (known : WellKnownTypes) (found : RecordSet) : Shape → Walk
  | .scalar _ => { found }
  | .sequence element => element.discoverInto known found
  | .map _ value => value.discoverInto known found
  | .record r =>
    if known.contains r.name then { found }
    else match found.insert r with
      | .error collision => { found, collision }
      | .ok (false, _) => { found }
      | .ok (true, found) => r.discoverInto known found

/-- Walks through the fields of a record, which is not taken in itself. -/
def Record.discoverInto (known : WellKnownTypes) (found : RecordSet) : Record → Walk
  | ⟨_, fields⟩ => Field.discoverAll known found fields

def Field.discoverAll (known : WellKnownTypes) (found : RecordSet) : List Field → Walk
  | [] => { found }
  | ⟨_, _, shape⟩ :: rest =>
    let walk := shape.discoverInto known found
    if walk.collision.isSome then walk else Field.discoverAll known walk.found rest

end

namespace Walk

/-- Goes on with a step, unless the walk has ended. -/
def andThen (walk : Walk) (step : RecordSet → Walk) : Walk :=
  match walk.collision with
  | some _ => walk
  | none => step walk.found

/-- Takes in a record without walking it. -/
def take (r : Record) (found : RecordSet) : Walk :=
  match found.insert r with
  | .error collision => { found, collision }
  | .ok (_, found) => { found }

/-- The records found, or the name of the collision. -/
def result (walk : Walk) : Except GenerationError (List Record) :=
  match walk.collision with
  | some collision => .error (.nameCollision collision.name)
  | none => .ok walk.found.toList

end Walk

/-- The records nested in a record, parents before children. -/
def discover (known : WellKnownTypes) (root : Record) : Except GenerationError (List Record) :=
  (root.discoverInto known .empty).result

/-- Walks one handler: what is nested in its request, then in its response, then
the two themselves. -/
def Handler.discoverInto (known : WellKnownTypes) (found : RecordSet) (h : Handler) : Walk :=
  (((h.request.discoverInto known found).andThen
    (h.response.discoverInto known ·)).andThen
    (Walk.take h.request)).andThen
    (Walk.take h.response)

def Handler.discoverAll (known : WellKnownTypes) (found : RecordSet) : List Handler → Walk
  | [] => { found }
  | h :: rest => (h.discoverInto known found).andThen (Handler.discoverAll known · rest)

/-- The records that the schema of some handlers defines, in order. -/
def collectRecords (known : WellKnownTypes) (handlers : List Handler) :
    Except GenerationError (List Record) :=
  (Handler.discoverAll known .empty handlers).result

end ServiceSchema
