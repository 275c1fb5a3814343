/-
What a schema refers to it defines: a record whose name stands in the type of a field, and
the request and the response of a method, have exactly one message each
(`document_defines`). Well-known names are apart, and so are names inside the keys of maps.

The types of fields are written by one recursion over shapes and the records found by
another. They agree on which names are references outside keys (`writes_iff_wraps`), and part
at a map with records for keys: the name of the key is written, but the record is not walked
to, and may be left without a message (`not_all_references_defined`).
-/
import Mathlib.Data.List.Nodup
import ServiceSchema.Proofs.Discovery.Order
import ServiceSchema.Service

namespace ServiceSchema

namespace Shape

/-- The name of a record is written for a shape: for the record itself, for the elements of
a sequence, or for the keys or the values of a map. The flag is set for what stands in a key. -/
inductive Writes : Shape → Bool → Record → Prop
  | record {r : Record} : Writes (.record r) false r
  | sequence {element : Shape} {inKey : Bool} {r : Record} :
      Writes element inKey r → Writes (.sequence element) inKey r
  | key {key value : Shape} {inKey : Bool} {r : Record} :
      Writes key inKey r → Writes (.map key value) true r
  | value {key value : Shape} {inKey : Bool} {r : Record} :
      Writes value inKey r → Writes (.map key value) inKey r

variable {known known' : WellKnownTypes} {inKey : Bool} {r : Record}

/-- What is written stands in the text of the type. -/
theorem Writes.infix_wireType {s : Shape} (h : s.Writes inKey r) :
    (r.wireType known).toList <:+: (s.wireType known).toList := by
  induction h with
  | record => exact List.infix_rfl
  | sequence _ ih =>
    rw [wireType, String.toList_append]
    exact ih.trans (List.suffix_append _ _).isInfix
  | @key key value _ _ _ ih =>
    have hmap : ((Shape.map key value).wireType known).toList = "map<".toList ++
        (key.wireType known).toList ++ (", " ++ value.wireType known ++ ">").toList := by
      simp [wireType]
    exact ih.trans ⟨_, _, hmap.symm⟩
  | @value key value _ _ _ ih =>
    have hmap : ((Shape.map key value).wireType known).toList = ("map<" ++ key.wireType known ++
        ", ").toList ++ (value.wireType known).toList ++ ">".toList := by
      simp [wireType]
    exact ih.trans ⟨_, _, hmap.symm⟩

/-- No other name is in the text: it is the same for tables that agree on what is written. -/
theorem wireType_congr : ∀ {s : Shape},
    (∀ inKey r, s.Writes inKey r → r.wireType known = r.wireType known') →
    s.wireType known = s.wireType known'
  | .scalar _, _ => rfl
  | .record r, h => h false r .record
  | .sequence element, h => by
    rw [wireType, wireType, wireType_congr fun inKey r hr => h inKey r (.sequence hr)]
  | .map key value, h => by
    have hkey := wireType_congr fun inKey r (hr : key.Writes inKey r) => h true r (.key hr)
    have hvalue := wireType_congr fun inKey r hr => h inKey r (.value hr)
    rw [wireType, wireType, hkey, hvalue]

/-- Outside keys, the names that are written are those of the records that are walked to. -/
theorem writes_iff_wraps {s : Shape} : s.Writes false r ↔ s.Wraps r := by
  constructor
  · intro h
    generalize hflag : false = inKey at h
    induction h with
    | record => exact .record
    | sequence _ ih => exact .sequence (ih hflag)
    | key => cases hflag
    | value _ ih => exact .map (ih hflag)
  · intro h
    induction h with
    | record => exact .record
    | sequence _ ih => exact .sequence ih
    | map _ ih => exact .value ih

end Shape

/-- A record stands somewhere in some handlers: as the request or the response of one, or in
the type of a field of a record that does, keys of maps included. -/
inductive Occurs (handlers : List Handler) : Record → Prop
  | request {h : Handler} : h ∈ handlers → Occurs handlers h.request
  | response {h : Handler} : h ∈ handlers → Occurs handlers h.response
  | nested {r s : Record} {f : Field} {inKey : Bool} : Occurs handlers r → f ∈ r.fields →
      f.shape.Writes inKey s → Occurs handlers s

theorem Needed.occurs {known : WellKnownTypes} {handlers : List Handler} {r : Record}
    (h : Needed known handlers r) : Occurs handlers r := by
  induction h with
  | request hh => exact .request hh
  | response hh => exact .response hh
  | nested _ hf hw _ ih => exact .nested ih hf (Shape.writes_iff_wraps.2 hw)

/-- Exactly one message of a document has a name. -/
def Document.Defines (d : Document) (name : String) : Prop :=
  (d.messages.map (·.name)).count name = 1

instance (d : Document) (name : String) : Decidable (d.Defines name) :=
  inferInstanceAs (Decidable (_ = _))

namespace Service

variable {known : WellKnownTypes} {info : ServiceInfo} {handlers : List Handler} {s : Service}
  {layout : Layout}

theorem make_eq_ok : make known info handlers = .ok s ↔
    ∃ records, collectRecords known handlers = .ok records ∧ s = ⟨info, handlers, records⟩ := by
  rw [make]
  cases collectRecords known handlers with
  | error e => simp [Except.map]
  | ok records => simp [Except.map, eq_comm]

theorem names_of_messages :
    (s.document known layout).messages.map (·.name) = s.records.map (·.name) := by
  simp [document, Record.message]

/-- A record that is needed has exactly one message. -/
theorem defines_of_needed (h : make known info handlers = .ok s) {r : Record}
    (hr : Needed known handlers r) : (s.document known layout).Defines r.name := by
  obtain ⟨records, hrecords, rfl⟩ := make_eq_ok.1 h
  rw [Document.Defines, names_of_messages]
  have hmem : r ∈ records := (mem_collectRecords hrecords).2 hr
  exact List.count_eq_one_of_mem (nodup_names_collectRecords hrecords) (List.mem_map_of_mem hmem)

/-- **No dangling reference.** A record whose name is written in the type of a field, other than
inside the key of a map, has exactly one message, unless the name is well known; and so have
the request and the response of every method. -/
theorem document_defines (h : make known info handlers = .ok s) (layout : Layout) :
    (∀ r ∈ s.records, ∀ f ∈ r.fields, ∀ q, f.shape.Writes false q →
      known.contains q.name = false → (s.document known layout).Defines q.name) ∧
    ∀ rpc ∈ (s.document known layout).rpcs,
      (s.document known layout).Defines rpc.input ∧ (s.document known layout).Defines rpc.output := by
  obtain ⟨records, hrecords, rfl⟩ := make_eq_ok.1 h
  constructor
  · intro r hr f hf q hq hk
    have hneeded : Needed known handlers r := (mem_collectRecords hrecords).1 hr
    exact defines_of_needed h (.nested hneeded hf (Shape.writes_iff_wraps.1 hq) hk)
  · intro rpc hrpc
    obtain ⟨handler, hhandler, rfl⟩ := List.mem_map.1 hrpc
    exact ⟨defines_of_needed h (.request hhandler), defines_of_needed h (.response hhandler)⟩

/-! ## Names inside the keys of maps -/

def sampleKey : Record := .ofFields "Key" [("id", .scalar .text)]

def sampleEntry : Record := .ofFields "Entry" [("value", .scalar .text)]

/-- A method whose request has a map between two records. -/
def sampleLookup : Handler where
  name := "Find"
  request := .ofFields "Lookup" [("by_key", .map (.record sampleKey) (.record sampleEntry))]
  response := .ofFields "Found" [("entries", .sequence (.record sampleEntry))]
  method := .post
  route := "/find"
  authentication := .anyone
  permissions := []

/-- The service of that method: the key of the map has no message. -/
def sampleService : Service where
  info := { name := "Lookup" }
  handlers := [sampleLookup]
  records := [sampleEntry, sampleLookup.request, sampleLookup.response]

theorem make_sampleService : make .empty { name := "Lookup" } [sampleLookup] = .ok sampleService :=
  make_eq_ok.2 ⟨_, collectRecords_eq_ok.2 ⟨by decide, by decide⟩, rfl⟩

/-- The value of the map and the two records of the method are defined. -/
theorem sampleService_defines :
    make .empty { name := "Lookup" } [sampleLookup] = .ok sampleService ∧
      (sampleService.document .empty .nameFirst).Defines "Entry" ∧
      (sampleService.document .empty .nameFirst).Defines "Lookup" ∧
      (sampleService.document .empty .nameFirst).Defines "Found" := by
  have h := document_defines make_sampleService .nameFirst
  have hlookup := h.2 sampleLookup.rpc (by decide)
  refine ⟨make_sampleService, ?_, hlookup⟩
  exact h.1 sampleLookup.request (by decide) ⟨"by_key", 1, _⟩ (.head _) sampleEntry (.value .record) rfl

/-- A record that is the key of a map is written and has no message. -/
theorem not_all_references_defined :
    ¬ ∀ (known : WellKnownTypes) (info : ServiceInfo) (handlers : List Handler) (s : Service)
        (layout : Layout), make known info handlers = .ok s →
      (∀ r ∈ s.records, ∀ f ∈ r.fields, ∀ inKey q, f.shape.Writes inKey q →
        known.contains q.name = false → (s.document known layout).Defines q.name) ∧
      ∀ rpc ∈ (s.document known layout).rpcs,
        (s.document known layout).Defines rpc.input ∧ (s.document known layout).Defines rpc.output := by
  intro h
  have hkey : (sampleService.document .empty .nameFirst).Defines "Key" :=
    (h .empty _ _ _ .nameFirst make_sampleService).1 sampleLookup.request (by decide)
      ⟨"by_key", 1, _⟩ (.head _) true sampleKey (.key .record) rfl
  exact absurd hkey (by decide)

end Service

end ServiceSchema
