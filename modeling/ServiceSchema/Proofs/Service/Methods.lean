/-
The methods of a service are named after its handlers, one for one and in order. There are two
ways to a service, and they differ in what they ask of these names. An application refuses an
endpoint whose name is taken, so its schema declares no method twice. A manifest is resolved
whatever its handlers are called: the names of its methods are different exactly when those of its
handlers are (`method_names`), and two handlers of one name make two methods of one name
(`not_all_methods_distinct`).
-/
import ServiceSchema.Proofs.App.Registration
import ServiceSchema.Proofs.Manifest.Translation
import ServiceSchema.Samples.Handlers

namespace ServiceSchema

/-- The names of the methods of a document, in order. -/
def Document.methodNames (d : Document) : List String := d.rpcs.map (·.name)

theorem Service.methodNames_document {s : Service} {known : WellKnownTypes} {layout : Layout} :
    (s.document known layout).methodNames = s.handlers.map (·.name) := by
  simp [Document.methodNames, Service.document, Handler.rpc]

/-! ## Applications -/

/-- An endpoint is that of a handler between two types. -/
def Endpoint.Typed (e : Endpoint) : Prop :=
  ∃ (Request Response : Type) (h : TypedHandler Request Response), h.toEndpoint = e

/-- Schemas know such an endpoint by the name that callers know it by. -/
theorem Endpoint.Typed.name_of_descriptor {e : Endpoint} (he : e.Typed) {handler : Handler}
    (h : e.descriptor = .ok handler) : handler.name = e.name := by
  obtain ⟨_, _, typed, rfl⟩ := he
  simp only [TypedHandler.toEndpoint, Handler.make, bind_eq_ok, pure_eq_ok] at h
  obtain ⟨request, -, response, -, rfl⟩ := h
  rfl

namespace App

variable {a : App} {known : WellKnownTypes} {s : Service}

theorem names_of_descriptorsOf {es : List Endpoint} {handlers : List Handler}
    (htyped : ∀ e ∈ es, e.Typed) (h : descriptorsOf es = .ok handlers) :
    handlers.map (·.name) = es.map (·.name) := by
  induction es generalizing handlers with
  | nil =>
    cases h
    rfl
  | cons e rest ih =>
    simp only [descriptorsOf, bind_eq_ok, pure_eq_ok] at h
    obtain ⟨handler, hhandler, more, hmore, rfl⟩ := h
    rw [List.map_cons, List.map_cons, (htyped e List.mem_cons_self).name_of_descriptor hhandler,
      ih (fun e he => htyped e (List.mem_cons_of_mem _ he)) hmore]

theorem methodNames_of_service (htyped : ∀ e ∈ a.endpoints, e.Typed) (h : a.service known = .ok s)
    (layout : Layout) : (s.document known layout).methodNames = a.names := by
  obtain ⟨handlers, hhandlers, h⟩ := bind_eq_ok.1 h
  obtain ⟨records, -, rfl⟩ := Service.make_eq_ok.1 h
  rw [Service.methodNames_document]
  exact names_of_descriptorsOf htyped hhandlers

end App

/-! ## Manifests -/

theorem Declarations.names_of_translates {d : Declarations} {specs : List HandlerSpec}
    {handlers : List Handler} (h : List.Forall₂ d.Translates specs handlers) :
    handlers.map (·.name) = specs.map (·.name) := by
  induction h with
  | nil => rfl
  | cons hhandler _ ih => rw [List.map_cons, List.map_cons, hhandler.name, ih]

namespace Manifest

variable {m : Manifest} {known : WellKnownTypes} {s : Service}

theorem methodNames_of_toService (h : m.toService known = .ok s) (layout : Layout) :
    (s.document known layout).methodNames = m.handlers.map (·.name) := by
  obtain ⟨handlers, hresolve, hmake⟩ := toService_eq_ok.1 h
  obtain ⟨-, htranslates⟩ := resolve_eq_ok hresolve
  obtain ⟨records, -, rfl⟩ := Service.make_eq_ok.1 hmake
  rw [Service.methodNames_document]
  exact Declarations.names_of_translates htranslates

end Manifest

/-- **The names of methods.** In the schema of an application, however it was set up, methods have
the names of its endpoints, all of them different. In the schema of a manifest they have the names
of its handlers, and are different exactly when these are. -/
theorem method_names (known : WellKnownTypes) (s : Service) (layout : Layout) :
    (∀ a : App, a.Built → (∀ e ∈ a.endpoints, e.Typed) → a.service known = .ok s →
      (s.document known layout).methodNames = a.names ∧
        (s.document known layout).methodNames.Nodup) ∧
    ∀ m : Manifest, m.toService known = .ok s →
      (s.document known layout).methodNames = m.handlers.map (·.name) ∧
        ((s.document known layout).methodNames.Nodup ↔ (m.handlers.map (·.name)).Nodup) := by
  constructor
  · intro a hbuilt htyped h
    have hnames := App.methodNames_of_service htyped h layout
    exact ⟨hnames, hnames ▸ hbuilt.nodup_names⟩
  · intro m h
    have hnames := Manifest.methodNames_of_toService h layout
    exact ⟨hnames, by rw [hnames]⟩

/-! ## Two handlers of one name -/

/-- A manifest with two handlers of one name. -/
def sampleTwice : Manifest where
  service := { name := "Store" }
  records := [⟨"Item", [⟨"id", "i32"⟩]⟩]
  handlers :=
    [{ name := "Touch", method := .get, route := "/items", request := "Item", response := "Item" },
      { name := "Touch", method := .delete, route := "/items/old", request := "Item",
        response := "Item" }]

def sampleTwiceItem : Record := .ofFields "Item" [("id", .scalar .int32)]

def sampleTwiceService : Service where
  info := sampleTwice.service
  handlers :=
    [⟨"Touch", sampleTwiceItem, sampleTwiceItem, .get, "/items", .anyone, []⟩,
      ⟨"Touch", sampleTwiceItem, sampleTwiceItem, .delete, "/items/old", .anyone, []⟩]
  records := [sampleTwiceItem]

theorem toService_sampleTwice : sampleTwice.toService .standard = .ok sampleTwiceService := by
  have hresolve : sampleTwice.resolve .standard = .ok sampleTwiceService.handlers := by
    rw [Manifest.resolve, Declarations.resolveHandlers_nil]
    decide +kernel
  exact Manifest.toService_eq_ok.2 ⟨_, hresolve,
    Service.make_eq_ok.2 ⟨_, collectRecords_eq_ok.2 ⟨by decide, by decide⟩, rfl⟩⟩

/-- An application that the same endpoint is registered with twice. -/
def sampleOnce : App :=
  .build "Store" [.register Samples.chain.toEndpoint, .register Samples.chain.toEndpoint]

def sampleOnceService : Service where
  info := { name := "Store" }
  handlers := [⟨"Chain", .bare "Empty", .bare "Empty", .post, "/chain", .anyone, []⟩]
  records := [.bare "Empty"]

theorem service_sampleOnce : sampleOnce.service .standard = .ok sampleOnceService :=
  Service.make_eq_ok.2 ⟨_, collectRecords_eq_ok.2 ⟨by decide, by decide⟩, rfl⟩

/-- What comes twice is declared twice for a manifest, and once for an application. -/
theorem method_names_sampleTwice :
    sampleTwice.toService .standard = .ok sampleTwiceService ∧
      (sampleTwiceService.document .standard .nameFirst).methodNames = ["Touch", "Touch"] ∧
      sampleOnce.service .standard = .ok sampleOnceService ∧
      (sampleOnceService.document .standard .nameFirst).methodNames = ["Chain"] := by
  have htyped : ∀ e ∈ sampleOnce.endpoints, e.Typed := fun e he =>
    ⟨_, _, Samples.chain, (List.mem_singleton.1 he).symm⟩
  have htwice := (method_names .standard sampleTwiceService .nameFirst).2 sampleTwice
    toService_sampleTwice
  have honce := (method_names .standard sampleOnceService .nameFirst).1 sampleOnce ⟨_, _, rfl⟩
    htyped service_sampleOnce
  exact ⟨toService_sampleTwice, htwice.1, service_sampleOnce, honce.1⟩

/-- A schema may declare a method twice. -/
theorem not_all_methods_distinct :
    ¬ ∀ (m : Manifest) (known : WellKnownTypes) (s : Service) (layout : Layout),
      m.toService known = .ok s → (s.document known layout).methodNames.Nodup := by
  intro h
  have hnodup := h sampleTwice .standard sampleTwiceService .nameFirst toService_sampleTwice
  exact absurd hnodup (by decide)

end ServiceSchema
