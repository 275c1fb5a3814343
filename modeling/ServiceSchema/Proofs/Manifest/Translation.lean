/-
From a manifest straight to its document: what stands in the document is told from the type
expressions alone, without resolving them, walking for records or mapping shapes
(`document_of_manifest`).

All stages in between are keyed by name. What keeps them together is that each record that
turns up anywhere in a resolved handler is what its own name expands to with nothing under
way (`Genuine`): the roots are, and what is nested in such a record is again
(`Genuine.nested`). So a message that has the name of a declaration was made from that
declaration, whatever path led to it.
-/
import ServiceSchema.Proofs.Manifest.Acceptance
import ServiceSchema.Proofs.Service.References

namespace ServiceSchema

theorem exists_of_forall₂ {α β : Type} {R : α → β → Prop} {as : List α} {bs : List β}
    (h : List.Forall₂ R as bs) {b : β} (hb : b ∈ bs) : ∃ a ∈ as, R a b := by
  induction h with
  | nil => cases hb
  | @cons a c as cs hac _ ih =>
    rcases List.mem_cons.1 hb with rfl | hb
    · exact ⟨a, List.mem_cons_self, hac⟩
    · obtain ⟨x, hx, hxb⟩ := ih hb
      exact ⟨x, List.mem_cons_of_mem _ hx, hxb⟩

theorem mapM_eq_ok_iff {ε α β : Type} {f : α → Except ε β} {as : List α} {bs : List β} :
    as.mapM f = .ok bs ↔ List.Forall₂ (fun a b => f a = .ok b) as bs := by
  induction as generalizing bs with
  | nil => rw [List.mapM_nil, pure_eq_ok, List.forall₂_nil_left_iff, eq_comm]
  | cons a as ih =>
    simp only [List.mapM_cons, bind_eq_ok, pure_eq_ok, List.forall₂_cons_left_iff, ih]
    constructor
    · rintro ⟨b, hb, bs', hbs, rfl⟩
      exact ⟨b, bs', hb, hbs, rfl⟩
    · rintro ⟨b, bs', hb, hbs, rfl⟩
      exact ⟨b, hb, bs', hbs, rfl⟩

/-! ## Records with numbered fields -/

namespace Record

theorem name_ofFields (name : String) (fields : List (String × Shape)) :
    (ofFields name fields).name = name := by
  have key : ∀ r : Record, (fields.foldl (fun r p => r.addField p.1 p.2) r).name = r.name := by
    induction fields with
    | nil => exact fun r => rfl
    | cons p rest ih => exact fun r => ih _
  exact key (bare name)

/-- Fields are numbered from one. -/
theorem fields_ofFields (name : String) (fields : List (String × Shape)) :
    (ofFields name fields).fields =
      (fields.zipIdx 1).map fun p => ⟨p.1.1, UInt32.ofNat p.2, p.1.2⟩ := by
  have key : ∀ r : Record, (fields.foldl (fun r p => r.addField p.1 p.2) r).fields = r.fields ++
      (fields.zipIdx (r.fields.length + 1)).map fun p => ⟨p.1.1, UInt32.ofNat p.2, p.1.2⟩ := by
    induction fields with
    | nil => simp
    | cons p rest ih =>
      intro r
      rw [List.foldl_cons, ih]
      simp [addField, UInt32.ofNat_add]
  exact key (bare name)

end Record

/-! ## Type expressions -/

namespace TypeExpr

/-- How a type expression is written in a schema. -/
def wireType (known : WellKnownTypes) : TypeExpr → String
  | .scalar kind => kind.wireType
  | .list element => "repeated " ++ element.wireType known
  | .map key value => "map<" ++ key.wireType known ++ ", " ++ value.wireType known ++ ">"
  | .named name =>
    match known.get? name with
    | some entry => entry.wireType
    | none => name

variable {known : WellKnownTypes} {f : String → Except ManifestError Record}

/-- The shape of an expression is written as the expression is. -/
theorem wireType_shape {e : TypeExpr} {s : Shape} (h : e.shape f = .ok s)
    (hname : ∀ n r, f n = .ok r → r.name = n) : s.wireType known = e.wireType known := by
  induction e generalizing s with
  | scalar kind =>
    cases h
    rfl
  | list element ih =>
    obtain ⟨t, ht, h⟩ := bind_eq_ok.1 h
    cases h
    rw [Shape.wireType, wireType, ih ht]
  | map key value ihk ihv =>
    obtain ⟨k, hk, h⟩ := bind_eq_ok.1 h
    obtain ⟨v, hv, h⟩ := bind_eq_ok.1 h
    cases h
    rw [Shape.wireType, wireType, ihk hk, ihv hv]
  | named name =>
    obtain ⟨r, hr, h⟩ := bind_eq_ok.1 h
    cases h
    have hnamed : r.wireType known = (named r.name).wireType known := rfl
    rw [Shape.wireType, hnamed, hname name r hr]

/-- A record that is written for the shape is that of a name in the expression. -/
theorem exists_of_writes {e : TypeExpr} {s : Shape} {inKey : Bool} {r : Record}
    (h : e.shape f = .ok s) (hw : s.Writes inKey r) : ∃ n, f n = .ok r := by
  induction e generalizing s inKey with
  | scalar kind =>
    cases h
    cases hw
  | list element ih =>
    obtain ⟨t, ht, h⟩ := bind_eq_ok.1 h
    cases h
    cases hw with
    | sequence hw => exact ih ht hw
  | map key value ihk ihv =>
    obtain ⟨k, hk, h⟩ := bind_eq_ok.1 h
    obtain ⟨v, hv, h⟩ := bind_eq_ok.1 h
    cases h
    cases hw with
    | key hw => exact ihk hk hw
    | value hw => exact ihv hv hw
  | named name =>
    obtain ⟨q, hq, h⟩ := bind_eq_ok.1 h
    cases h
    cases hw
    exact ⟨name, hq⟩

end TypeExpr

namespace FieldSpec

/-- A field declaration in its place among the fields of its record, and the line that is
made of it. The ordinal is the place, as a number of 32 bits. -/
def Line (known : WellKnownTypes) (place : FieldSpec × Nat) (line : FieldLine) : Prop :=
  ∃ e, TypeExpr.parse place.1.type = .ok e ∧
    line = ⟨place.1.name, e.wireType known, UInt32.ofNat place.2⟩

variable {f : Referrer → String → Except ManifestError Record} {owner : String}

theorem shapes_eq_ok {fields : List FieldSpec} {ss : List (String × Shape)}
    (h : shapes f owner fields = .ok ss) :
    List.Forall₂ (fun field p => p.1 = field.name ∧ ∃ e, TypeExpr.parse field.type = .ok e ∧
      e.shape (f (.field owner field.name)) = .ok p.2) fields ss := by
  induction fields generalizing ss with
  | nil =>
    cases h
    exact .nil
  | cons field rest ih =>
    simp only [shapes, bind_eq_ok, mapError_eq_ok, pure_eq_ok] at h
    obtain ⟨e, he, s, hs, ss', hss, rfl⟩ := h
    exact .cons ⟨rfl, e, he, hs⟩ (ih hss)

/-- The fields of the record of a declaration are written as they are declared. -/
theorem lines_ofFields {known : WellKnownTypes} {fields : List FieldSpec}
    {ss : List (String × Shape)} (h : shapes f owner fields = .ok ss)
    (hname : ∀ referrer n r, f referrer n = .ok r → r.name = n) :
    List.Forall₂ (Line known) (fields.zipIdx 1)
      ((Record.ofFields owner ss).message known).fields := by
  rw [Record.message, Record.fields_ofFields, List.map_map, List.forall₂_map_right_iff]
  generalize 1 = start
  replace h := shapes_eq_ok h
  induction h generalizing start with
  | nil => exact .nil
  | cons hfield _ ih =>
    obtain ⟨hfield, e, he, hs⟩ := hfield
    rw [List.zipIdx_cons, List.zipIdx_cons]
    refine .cons ⟨e, he, ?_⟩ (ih _)
    simp [Field.line, hfield, TypeExpr.wireType_shape hs (hname _)]

end FieldSpec

/-! ## Records that are what their names expand to -/

namespace Declarations

variable {d : Declarations} {stack : List String} {referrer : Referrer} {name : String} {r : Record}

theorem name_of_expandName (h : d.expandName stack referrer name = .ok r) : r.name = name := by
  by_cases hs : name ∈ stack
  · rw [expandName_of_mem hs] at h
    cases h
  · cases hfind : d.find? name with
    | some spec =>
      rw [expandName_of_declared hs hfind] at h
      obtain ⟨ss, -, h⟩ := bind_eq_ok.1 h
      cases h
      exact Record.name_ofFields name ss
    | none =>
      rw [expandName_of_undeclared hs hfind] at h
      split at h
      · cases h
        rfl
      · cases h

/-- A record is what its name expands to when nothing is under way. -/
def Genuine (d : Declarations) (r : Record) : Prop :=
  ∀ referrer, d.expandName [] referrer r.name = .ok r

/-- Whatever is under way, a name expands to the one record that is genuine. -/
theorem genuine_of_expandName (h : d.expandName stack referrer name = .ok r) : d.Genuine r := by
  intro referrer'
  rw [name_of_expandName h]
  exact expandName_of_apart h (fun _ _ => List.not_mem_nil) referrer'

namespace Genuine

/-- A genuine record with a declaration has the fields of the declaration. -/
theorem of_declared (h : d.Genuine r) {spec : RecordSpec} (hfind : d.find? r.name = some spec) :
    ∃ ss, FieldSpec.shapes (d.expandName [r.name]) r.name spec.fields = .ok ss ∧
      r = .ofFields r.name ss := by
  have hr := h (.handler "")
  rw [expandName_of_declared List.not_mem_nil hfind] at hr
  obtain ⟨ss, hss, hr⟩ := bind_eq_ok.1 hr
  exact ⟨ss, hss, (pure_eq_ok.1 hr).symm⟩

/-- A genuine record without a declaration is well known, and has no fields. -/
theorem of_undeclared (h : d.Genuine r) (hfind : d.find? r.name = none) :
    d.known.contains r.name = true ∧ r.fields = [] := by
  have hr := h (.handler "")
  rw [expandName_of_undeclared List.not_mem_nil hfind] at hr
  split at hr
  · rename_i hk
    exact ⟨hk, congrArg Record.fields (Except.ok.inj hr).symm⟩
  · cases hr

/-- What is written in the fields of a genuine record is genuine. -/
theorem nested (h : d.Genuine r) {f : Field} (hf : f ∈ r.fields) {inKey : Bool} {s : Record}
    (hw : f.shape.Writes inKey s) : d.Genuine s := by
  cases hfind : d.find? r.name with
  | none =>
    rw [(h.of_undeclared hfind).2] at hf
    cases hf
  | some spec =>
    obtain ⟨ss, hss, hr⟩ := h.of_declared hfind
    rw [hr, Record.fields_ofFields] at hf
    obtain ⟨p, hp, rfl⟩ := List.mem_map.1 hf
    obtain ⟨field, -, -, e, -, hs⟩ :=
      exists_of_forall₂ (FieldSpec.shapes_eq_ok hss) (List.fst_mem_of_mem_zipIdx hp)
    obtain ⟨n, hn⟩ := TypeExpr.exists_of_writes hs hw
    exact genuine_of_expandName hn

/-- The message of a genuine record with a declaration is written from the declaration. -/
theorem lines_of_declared (h : d.Genuine r) {spec : RecordSpec} (hfind : d.find? r.name = some spec) :
    List.Forall₂ (FieldSpec.Line d.known) (spec.fields.zipIdx 1) (r.message d.known).fields := by
  obtain ⟨ss, hss, hr⟩ := h.of_declared hfind
  rw [hr]
  exact FieldSpec.lines_ofFields hss fun referrer n q => name_of_expandName

end Genuine

/-! ## Handlers -/

/-- A handler is what its description says, with names of records for its two types. -/
structure Translates (d : Declarations) (spec : HandlerSpec) (handler : Handler) : Prop where
  name : handler.name = spec.name
  request : TypeExpr.parse spec.request = .ok (.named handler.request.name)
  response : TypeExpr.parse spec.response = .ok (.named handler.response.name)
  method : handler.method = spec.method
  route : handler.route = spec.route
  genuine_request : d.Genuine handler.request
  genuine_response : d.Genuine handler.response

theorem expandText_eq_record {text : String} (h : d.expandText referrer text = .ok (.record r)) :
    TypeExpr.parse text = .ok (.named r.name) ∧ d.Genuine r := by
  obtain ⟨name, hparse, -⟩ := expandText_eq_record_iff.1 ⟨r, h⟩
  simp only [expandText, bind_eq_ok, mapError_eq_ok] at h
  obtain ⟨e, he, h⟩ := h
  cases hparse.symm.trans he
  obtain ⟨q, hq, h⟩ := bind_eq_ok.1 h
  cases h
  rw [name_of_expandName hq]
  exact ⟨hparse, genuine_of_expandName hq⟩

theorem translates_of_expandHandler {spec : HandlerSpec} {handler : Handler}
    (h : d.expandHandler spec = .ok handler) : d.Translates spec handler := by
  simp only [expandHandler, makeHandler, Handler.make, bind_eq_ok, mapError_eq_ok, pure_eq_ok,
    requireRecord_eq_ok] at h
  obtain ⟨s, hs, t, ht, claims, -, r, rfl, q, rfl, rfl⟩ := h
  obtain ⟨hrequest, hr⟩ := expandText_eq_record hs
  obtain ⟨hresponse, hq⟩ := expandText_eq_record ht
  exact ⟨rfl, hrequest, hresponse, rfl, rfl, hr, hq⟩

/-- All that occurs in translated handlers is genuine. -/
theorem genuine_of_occurs {specs : List HandlerSpec} {handlers : List Handler}
    (h : List.Forall₂ d.Translates specs handlers) (hr : Occurs handlers r) : d.Genuine r := by
  induction hr with
  | request hh =>
    obtain ⟨spec, -, hspec⟩ := exists_of_forall₂ h hh
    exact hspec.genuine_request
  | response hh =>
    obtain ⟨spec, -, hspec⟩ := exists_of_forall₂ h hh
    exact hspec.genuine_response
  | nested _ hf hw ih => exact ih.nested hf hw

theorem genuine_of_needed {known : WellKnownTypes} {specs : List HandlerSpec}
    {handlers : List Handler} (h : List.Forall₂ d.Translates specs handlers)
    (hr : Needed known handlers r) : d.Genuine r :=
  genuine_of_occurs h hr.occurs

end Declarations

/-- The method that a description of a handler stands for. -/
structure HandlerSpec.Describes (spec : HandlerSpec) (rpc : Rpc) : Prop where
  name : rpc.name = spec.name
  input : TypeExpr.parse spec.request = .ok (.named rpc.input)
  output : TypeExpr.parse spec.response = .ok (.named rpc.output)
  verb : rpc.verb = Text.asciiLower spec.method.name
  route : rpc.route = Text.lower spec.route

theorem HttpMethod.verb_eq (method : HttpMethod) : method.verb = Text.asciiLower method.name := by
  cases method <;> decide

theorem Declarations.Translates.describes {d : Declarations} {spec : HandlerSpec} {handler : Handler}
    (h : d.Translates spec handler) : spec.Describes handler.rpc where
  name := h.name
  input := h.request
  output := h.response
  verb := by rw [← h.method]; exact handler.method.verb_eq
  route := congrArg Text.lower h.route

namespace Manifest

variable {m : Manifest} {known : WellKnownTypes}

theorem resolve_eq_ok {handlers : List Handler} (h : m.resolve known = .ok handlers) :
    Distinct m.records ∧ List.Forall₂ (m.declarations known).Translates m.handlers handlers := by
  rw [resolve, Declarations.resolveHandlers_nil] at h
  obtain ⟨_, hcheck, h⟩ := bind_eq_ok.1 h
  refine ⟨checkNames_nil_eq_ok_iff.1 hcheck, (mapM_eq_ok_iff.1 h).imp fun spec handler => ?_⟩
  exact Declarations.translates_of_expandHandler

theorem toService_eq_ok {s : Service} : m.toService known = .ok s ↔
    ∃ handlers, m.resolve known = .ok handlers ∧ Service.make known m.service handlers = .ok s := by
  simp only [toService, bind_eq_ok, mapError_eq_ok]

theorem find?_of_mem (hd : Distinct m.records) {spec : RecordSpec} (hspec : spec ∈ m.records) :
    (m.declarations known).find? spec.name = some spec := by
  cases hfind : (m.declarations known).find? spec.name with
  | none =>
    have hne := List.find?_eq_none.1 hfind spec hspec
    simp at hne
  | some other =>
    rw [List.inj_on_of_nodup_map hd.recordNames (Declarations.mem_of_find? hfind) hspec
      (Declarations.name_of_find? hfind)]

/-- **From a manifest to its document.** The message of a declared record has one line for each
declared field, in order and numbered from one, with the type that the field's expression is
written as. Any other message is empty, and its name is a well-known one that stands for the
request or the response of some handler. The methods are those of the manifest, in order. -/
theorem document_of_manifest {s : Service} (h : m.toService known = .ok s) (layout : Layout) :
    (∀ message ∈ (s.document known layout).messages, ∀ spec ∈ m.records,
      spec.name = message.name →
      List.Forall₂ (FieldSpec.Line known) (spec.fields.zipIdx 1) message.fields) ∧
    (∀ message ∈ (s.document known layout).messages,
      (∀ spec ∈ m.records, spec.name ≠ message.name) →
      message.fields = [] ∧ known.contains message.name = true ∧
        ∃ spec ∈ m.handlers, TypeExpr.parse spec.request = .ok (.named message.name) ∨
          TypeExpr.parse spec.response = .ok (.named message.name)) ∧
    List.Forall₂ HandlerSpec.Describes m.handlers (s.document known layout).rpcs := by
  obtain ⟨handlers, hresolve, hmake⟩ := toService_eq_ok.1 h
  obtain ⟨hdistinct, htranslates⟩ := resolve_eq_ok hresolve
  obtain ⟨records, hrecords, rfl⟩ := Service.make_eq_ok.1 hmake
  have hgenuine : ∀ {r}, Needed known handlers r → (m.declarations known).Genuine r :=
    Declarations.genuine_of_needed htranslates
  refine ⟨?_, ?_, ?_⟩
  · intro message hmessage spec hspec hname
    obtain ⟨r, hr, rfl⟩ := List.mem_map.1 hmessage
    refine (hgenuine ((mem_collectRecords hrecords).1 hr)).lines_of_declared ?_
    change spec.name = r.name at hname
    rw [← hname]
    exact find?_of_mem hdistinct hspec
  · intro message hmessage hnot
    obtain ⟨r, hr, rfl⟩ := List.mem_map.1 hmessage
    have hneeded := (mem_collectRecords hrecords).1 hr
    have hfind : (m.declarations known).find? r.name = none := by
      refine List.find?_eq_none.2 fun spec hspec => ?_
      have hne : spec.name ≠ r.name := hnot spec hspec
      simpa using hne
    obtain ⟨hknown, hfields⟩ := (hgenuine hneeded).of_undeclared hfind
    refine ⟨by rw [Record.message, hfields, List.map_nil], hknown, ?_⟩
    cases hneeded with
    | request hh =>
      obtain ⟨spec, hspec, htranslated⟩ := exists_of_forall₂ htranslates hh
      exact ⟨spec, hspec, .inl htranslated.request⟩
    | response hh =>
      obtain ⟨spec, hspec, htranslated⟩ := exists_of_forall₂ htranslates hh
      exact ⟨spec, hspec, .inr htranslated.response⟩
    | nested _ _ _ hk =>
      rw [hk] at hknown
      cases hknown
  · exact List.forall₂_map_right_iff.2 (htranslates.imp fun _ _ ht => ht.describes)

/-! ## A manifest and its document -/

/-- A manifest that declares two records and takes a well-known one for a response. -/
def sample : Manifest where
  service := { name := "Widgets" }
  records :=
    [⟨"Widget", [⟨"id", "i32"⟩, ⟨"made", "Time"⟩, ⟨"parts", "map<string, [Part]>"⟩]⟩,
      ⟨"Part", [⟨"sku", "string"⟩]⟩]
  handlers :=
    [{ name := "Age", method := .get, route := "/Age", request := "Widget", response := "Time" }]

def samplePart : Record := .ofFields "Part" [("sku", .scalar .text)]

def sampleWidget : Record :=
  .ofFields "Widget" [("id", .scalar .int32), ("made", .record (.bare "Time")),
    ("parts", .map (.scalar .text) (.sequence (.record samplePart)))]

def sampleService : Service where
  info := sample.service
  handlers := [⟨"Age", sampleWidget, .bare "Time", .get, "/Age", .anyone, []⟩]
  records := [samplePart, sampleWidget, .bare "Time"]

theorem document_of_sample :
    sample.toService .standard = .ok sampleService ∧
      List.Forall₂ (FieldSpec.Line .standard)
        [(⟨"id", "i32"⟩, 1), (⟨"made", "Time"⟩, 2), (⟨"parts", "map<string, [Part]>"⟩, 3)]
        [⟨"id", "int32", 1⟩, ⟨"made", "google.protobuf.Timestamp", 2⟩,
          ⟨"parts", "map<string, repeated Part>", 3⟩] ∧
      List.Forall₂ HandlerSpec.Describes sample.handlers
        [⟨"Age", "Widget", "Time", "get", "/age"⟩] := by
  have hresolve : sample.resolve .standard = .ok sampleService.handlers := by
    rw [resolve, Declarations.resolveHandlers_nil]
    decide +kernel
  have hservice : sample.toService .standard = .ok sampleService :=
    toService_eq_ok.2 ⟨_, hresolve,
      Service.make_eq_ok.2 ⟨_, collectRecords_eq_ok.2 ⟨by decide, by decide⟩, rfl⟩⟩
  have hdocument := document_of_manifest hservice .nameFirst
  refine ⟨hservice, ?_, hdocument.2.2⟩
  exact hdocument.1 (sampleWidget.message .standard) (.tail _ (.head _)) _ (.head _) rfl

end Manifest

end ServiceSchema
