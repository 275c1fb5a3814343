/-
Resolving a manifest: from type expressions to the shapes of its handlers. A name
stands for the record declared under it, or else for a well-known type; what it
stands for is worked out once and kept. The names being worked out form a stack,
outermost first; a name met again while it is on the stack is a record that
contains itself. The stack holds different declared names, so it cannot outgrow
the declarations.
-/
import ServiceSchema.Manifest

namespace ServiceSchema

namespace Manifest

/-! ## Names are declared once -/

/-- The first name of a list that stands before itself, or among those seen. -/
def repeated? (seen : List String) : List String → Option String
  | [] => none
  | name :: rest => if name ∈ seen then some name else repeated? (name :: seen) rest

/-- Checks that records, and the fields of each record, have different names. -/
def checkNames (seen : List String) : List RecordSpec → Except ManifestError Unit
  | [] => .ok ()
  | spec :: rest =>
    if spec.name ∈ seen then .error (.duplicateRecord spec.name)
    else match repeated? [] (spec.fields.map (·.name)) with
      | some field => .error (.duplicateField spec.name field)
      | none => checkNames (spec.name :: seen) rest

end Manifest

/-- What names can refer to: declared records and well-known types. -/
structure Declarations where
  records : List RecordSpec
  known : WellKnownTypes

/-- The records that names have been resolved to. -/
abbrev Resolved := List (String × Record)

namespace Declarations

/-- The declaration of a name. -/
def find? (d : Declarations) (name : String) : Option RecordSpec :=
  d.records.find? (·.name = name)

/-- How many declared records are not on a stack. -/
def remaining (d : Declarations) (stack : List String) : Nat :=
  (d.records.filter fun spec => decide (spec.name ∉ stack)).length

theorem name_of_find? {d : Declarations} {name : String} {spec : RecordSpec}
    (h : d.find? name = some spec) : spec.name = name := by
  simpa using List.find?_some h

theorem mem_of_find? {d : Declarations} {name : String} {spec : RecordSpec}
    (h : d.find? name = some spec) : spec ∈ d.records :=
  List.mem_of_find?_eq_some h

/-- A declared name that comes onto the stack leaves fewer to come. -/
theorem remaining_push {d : Declarations} {stack : List String} {name : String}
    {spec : RecordSpec} (hstack : name ∉ stack) (h : d.find? name = some spec) :
    d.remaining (stack ++ [name]) < d.remaining stack := by
  have hsub : (d.records.filter fun s => decide (s.name ∉ stack ++ [name])) =
      (d.records.filter fun s => decide (s.name ∉ stack)).filter fun s => decide (s.name ≠ name) := by
    rw [List.filter_filter]
    congr 1
    funext s
    simp [Bool.and_comm]
  unfold remaining
  rw [hsub]
  refine List.length_filter_lt_length_iff_exists.2 ⟨spec, ?_, ?_⟩
  · simp [mem_of_find? h, name_of_find? h, hstack]
  · simp [name_of_find? h]

/-! ## Resolving -/

mutual

/-- The record that a name stands for, `stack` being the names under way. -/
def resolveName (d : Declarations) (stack : List String) (done : Resolved) (referrer : Referrer)
    (name : String) : Except ManifestError (Record × Resolved) :=
  match done.lookup name with
  | some r => .ok (r, done)
  | none =>
    if _hstack : name ∈ stack then .error (.recursiveRecord (stack ++ [name]))
    else match _hfind : d.find? name with
      | some spec => do
        let (fields, done) ← resolveFields d (stack ++ [name]) done name spec.fields
        let r := Record.ofFields name fields
        return (r, (name, r) :: done)
      | none =>
        if d.known.contains name then .ok (.bare name, done)
        else .error (.unknownType name referrer)
termination_by (d.remaining stack, 0, 0)
decreasing_by
  exact Prod.Lex.left _ _ (remaining_push _hstack _hfind)

/-- The shape that a type expression stands for. -/
def resolveExpr (d : Declarations) (stack : List String) (done : Resolved) (referrer : Referrer) :
    TypeExpr → Except ManifestError (Shape × Resolved)
  | .scalar kind => .ok (.scalar kind, done)
  | .list element => do
    let (element, done) ← resolveExpr d stack done referrer element
    return (.sequence element, done)
  | .map key value => do
    let (key, done) ← resolveExpr d stack done referrer key
    let (value, done) ← resolveExpr d stack done referrer value
    return (.map key value, done)
  | .named name => do
    let (r, done) ← resolveName d stack done referrer name
    return (.record r, done)
termination_by e => (d.remaining stack, 1, sizeOf e)

/-- The names and shapes of the fields of a record. -/
def resolveFields (d : Declarations) (stack : List String) (done : Resolved) (owner : String) :
    List FieldSpec → Except ManifestError (List (String × Shape) × Resolved)
  | [] => .ok ([], done)
  | field :: rest => do
    let expr ← (TypeExpr.parse field.type).mapError ManifestError.malformedType
    let (shape, done) ← resolveExpr d stack done (.field owner field.name) expr
    let (fields, done) ← resolveFields d stack done owner rest
    return ((field.name, shape) :: fields, done)
termination_by fields => (d.remaining stack, 2, sizeOf fields)

end

/-- The shape that the text of a type expression stands for. -/
def resolveText (d : Declarations) (done : Resolved) (referrer : Referrer) (text : String) :
    Except ManifestError (Shape × Resolved) := do
  let expr ← (TypeExpr.parse text).mapError ManifestError.malformedType
  resolveExpr d [] done referrer expr

/-- The claims that names stand for, together with some others. -/
def claims (handler : String) (sum : Claims) : List String → Except ManifestError Claims
  | [] => .ok sum
  | name :: rest =>
    match Claims.ofName? name with
    | some claim => claims handler (sum.union claim) rest
    | none => .error (.unknownClaim handler name)

/-- A handler that asks for no claim admits everybody. -/
def orAnyone (claims : Claims) : Claims :=
  if claims.isEmpty then .anyone else claims

/-- The handler that a manifest describes. -/
def resolveHandler (d : Declarations) (done : Resolved) (spec : HandlerSpec) :
    Except ManifestError (Handler × Resolved) := do
  let (request, done) ← d.resolveText done (.handler spec.name) spec.request
  let (response, done) ← d.resolveText done (.handler spec.name) spec.response
  let claims ← claims spec.name .none spec.authentication
  let handler ← (Handler.make spec.name request response spec.method spec.route (orAnyone claims)
    spec.permissions).mapError ManifestError.generation
  return (handler, done)

def resolveHandlers (d : Declarations) (done : Resolved) :
    List HandlerSpec → Except ManifestError (List Handler)
  | [] => .ok []
  | spec :: rest => do
    let (handler, done) ← d.resolveHandler done spec
    let handlers ← d.resolveHandlers done rest
    return handler :: handlers

end Declarations

namespace Manifest

/-- The handlers of a manifest, in order. -/
def resolve (m : Manifest) (known : WellKnownTypes) : Except ManifestError (List Handler) := do
  checkNames [] m.records
  (Declarations.mk m.records known).resolveHandlers [] m.handlers

/-- The service of a manifest, with the records that its schema defines. -/
def toService (m : Manifest) (known : WellKnownTypes) : Except ManifestError Service := do
  let handlers ← m.resolve known
  (Service.make known m.service handlers).mapError ManifestError.generation

end Manifest

end ServiceSchema
