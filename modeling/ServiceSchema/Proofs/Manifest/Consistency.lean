/-
A manifest whose handlers can be resolved has a service: the walk for the records of its
schema meets no two records of one name (`toService_of_resolve`).

The walk compares records and knows nothing of where they come from. Here they come from
names: a record that occurs anywhere in a resolved handler is what its name expands to, and a
name expands to one thing, whether the declaration was met for the first time, was kept, or is
missing and a well-known type stands in. So records of one name are equal wherever they stand,
also in places that the walk leaves out, the keys of maps and below well-known names.
-/
import ServiceSchema.Proofs.Discovery.Order
import ServiceSchema.Proofs.Manifest.Translation

namespace ServiceSchema

/-- No two records that occur in some handlers have one name. -/
def Unambiguous (handlers : List Handler) : Prop :=
  ∀ r s, Occurs handlers r → Occurs handlers s → r.name = s.name → r = s

/-- The walk through unambiguous handlers succeeds, whatever names are left out. -/
theorem Unambiguous.exists_collectRecords {handlers : List Handler} (h : Unambiguous handlers)
    (known : WellKnownTypes) : ∃ records, collectRecords known handlers = .ok records := by
  have hmet : Consistent (handlers.flatMap (·.visits known)) := by
    refine consistent_iff.2 fun q hq r hr => ?_
    exact h q r (mem_visits_iff_needed.1 hq).occurs (mem_visits_iff_needed.1 hr).occurs
  exact ⟨_, collectRecords_eq_ok.2 ⟨hmet, rfl⟩⟩

namespace Declarations

variable {d : Declarations} {r s : Record}

/-- A name stands for one genuine record at most. -/
theorem Genuine.eq_of_name_eq (hr : d.Genuine r) (hs : d.Genuine s) (hn : r.name = s.name) :
    r = s := by
  have hexpand := hr (.handler "")
  rw [hn, hs (.handler "")] at hexpand
  exact (Except.ok.inj hexpand).symm

end Declarations

namespace Manifest

variable {m : Manifest} {known : WellKnownTypes}

theorem unambiguous_of_resolve {handlers : List Handler} (h : m.resolve known = .ok handlers) :
    Unambiguous handlers := by
  obtain ⟨-, htranslates⟩ := resolve_eq_ok h
  intro r s hr hs hn
  have hgenuine : (m.declarations known).Genuine r := Declarations.genuine_of_occurs htranslates hr
  exact hgenuine.eq_of_name_eq (Declarations.genuine_of_occurs htranslates hs) hn

/-- **No collision from a manifest.** When the handlers of a manifest are resolved, a name has
one record at all places where it occurs in them, and the service is made. -/
theorem toService_of_resolve {handlers : List Handler} (h : m.resolve known = .ok handlers) :
    Unambiguous handlers ∧ ∃ records, collectRecords known handlers = .ok records ∧
      m.toService known = .ok ⟨m.service, handlers, records⟩ := by
  have hone : Unambiguous handlers := unambiguous_of_resolve h
  obtain ⟨records, hrecords⟩ := hone.exists_collectRecords known
  have hmake : Service.make known m.service handlers = .ok ⟨m.service, handlers, records⟩ :=
    Service.make_eq_ok.2 ⟨records, hrecords, rfl⟩
  exact ⟨hone, records, hrecords, toService_eq_ok.2 ⟨handlers, h, hmake⟩⟩

/-! ## A declaration with a well-known name -/

/-- A manifest that declares one of the standard well-known names and uses another without a
declaration. The declared one occurs nested, in the key of a map, and as a response. -/
def clock : Manifest where
  service := { name := "Clock" }
  records :=
    [⟨"Time", [⟨"seconds", "i64"⟩]⟩,
      ⟨"Span", [⟨"start", "Time"⟩, ⟨"length", "Duration"⟩, ⟨"marks", "map<Time, [Duration]>"⟩]⟩]
  handlers :=
    [{ name := "End", method := .get, route := "/end", request := "Span", response := "Time" },
      { name := "Wait", method := .post, route := "/wait", request := "Duration",
        response := "Span" }]

def clockTime : Record := .ofFields "Time" [("seconds", .scalar .int64)]

def clockSpan : Record :=
  .ofFields "Span" [("start", .record clockTime), ("length", .record (.bare "Duration")),
    ("marks", .map (.record clockTime) (.sequence (.record (.bare "Duration"))))]

def clockHandlers : List Handler :=
  [⟨"End", clockSpan, clockTime, .get, "/end", .anyone, []⟩,
    ⟨"Wait", .bare "Duration", clockSpan, .post, "/wait", .anyone, []⟩]

theorem toService_of_clock :
    clock.resolve .standard = .ok clockHandlers ∧
      (∀ r, Occurs clockHandlers r → r.name = "Time" → r = clockTime) ∧
      ∃ records, collectRecords .standard clockHandlers = .ok records ∧
        clock.toService .standard = .ok ⟨clock.service, clockHandlers, records⟩ := by
  have hresolve : clock.resolve .standard = .ok clockHandlers := by
    rw [resolve, Declarations.resolveHandlers_nil]
    decide +kernel
  have hmain := toService_of_resolve hresolve
  have htime : Occurs clockHandlers clockTime :=
    .response (h := ⟨"End", clockSpan, clockTime, .get, "/end", .anyone, []⟩) (.head _)
  exact ⟨hresolve, fun r hr hn => hmain.1 r clockTime hr htime hn, hmain.2⟩

end Manifest

end ServiceSchema
