/-
The requests and responses of handlers among the records of a schema. A record gets in
nested in another or as a request or response, and the two ways differ. Only the first looks at
the well-known names, so a request or response with such a name gets in all the same
(`wellKnown_mem_iff`). And the first takes in a record before what is nested in it, the
second after, so where a request or response stands depends on which way it came in
(`nested_before_root`).
-/
import Mathlib.Data.List.Basic
import ServiceSchema.Proofs.Discovery.Order

namespace ServiceSchema

variable {known : WellKnownTypes} {handlers : List Handler} {records : List Record}

/-! ## Well-known names -/

/-- **Well-known names among the records.** A record with a well-known name is one of those
that a schema defines exactly when it is the request or the response of a handler. -/
theorem wellKnown_mem_iff (h : collectRecords known handlers = .ok records) {r : Record}
    (hk : known.contains r.name = true) :
    r ∈ records ↔ ∃ handler ∈ handlers, r = handler.request ∨ r = handler.response := by
  rw [mem_collectRecords h]
  constructor
  · intro hr
    cases hr with
    | request hh => exact ⟨_, hh, .inl rfl⟩
    | response hh => exact ⟨_, hh, .inr rfl⟩
    | nested _ _ _ hfalse =>
      rw [hfalse] at hk
      cases hk
  · rintro ⟨handler, hh, rfl | rfl⟩
    · exact .request hh
    · exact .response hh

/-- A handler that answers with a record of a well-known name. -/
def sampleNow : Handler where
  name := "Now"
  request := .ofFields "NowRequest" [("at", .record (.bare "Duration"))]
  response := .ofFields "Time" [("seconds", .scalar .int64)]
  method := .get
  route := "/now"
  authentication := .anyone
  permissions := []

theorem collectRecords_sampleNow :
    collectRecords .standard [sampleNow] = .ok [sampleNow.request, sampleNow.response] :=
  collectRecords_eq_ok.2 ⟨by decide, by decide⟩

/-- Of the two well-known names that occur, the nested one is left out and the other is not. -/
theorem wellKnown_mem_iff_sampleNow :
    (sampleNow.response ∈ [sampleNow.request, sampleNow.response] ↔
      ∃ handler ∈ [sampleNow], sampleNow.response = handler.request ∨
        sampleNow.response = handler.response) ∧
    (Record.bare "Duration" ∈ [sampleNow.request, sampleNow.response] ↔
      ∃ handler ∈ [sampleNow], Record.bare "Duration" = handler.request ∨
        Record.bare "Duration" = handler.response) :=
  ⟨wellKnown_mem_iff collectRecords_sampleNow rfl, wellKnown_mem_iff collectRecords_sampleNow rfl⟩

/-- A well-known name does not keep a record out. -/
theorem not_wellKnown_apart :
    ¬ ∀ (known : WellKnownTypes) (handlers : List Handler) (records : List Record),
      collectRecords known handlers = .ok records →
        ∀ r ∈ records, known.contains r.name = false := by
  intro h
  have hresponse := h .standard _ _ collectRecords_sampleNow sampleNow.response (by simp)
  exact absurd hresponse (by decide)

/-! ## Nested records -/

/-- A field of a record is or wraps another record, not one with a well-known name. -/
def Record.Holds (known : WellKnownTypes) (r s : Record) : Prop :=
  (∃ f ∈ r.fields, f.shape.Wraps s) ∧ known.contains s.name = false

/-- A record stands in the fields of another, at any depth, with no well-known name on the way. -/
def Record.Nested (known : WellKnownTypes) : Record → Record → Prop :=
  Relation.TransGen (Record.Holds known)

theorem Shape.Wraps.sizeOf_lt {shape : Shape} {r : Record} (h : shape.Wraps r) :
    sizeOf r < sizeOf shape := by
  induction h with
  | record => simp
  | sequence _ ih =>
    rw [Shape.sequence.sizeOf_spec]
    omega
  | map _ ih =>
    rw [Shape.map.sizeOf_spec]
    omega

theorem Record.Holds.sizeOf_lt {r s : Record} (h : r.Holds known s) : sizeOf s < sizeOf r := by
  obtain ⟨name, fields⟩ := r
  obtain ⟨⟨f, hf, hw⟩, -⟩ := h
  obtain ⟨fieldName, ordinal, shape⟩ := f
  have hshape : sizeOf s < sizeOf shape := hw.sizeOf_lt
  have hfields := List.sizeOf_lt_of_mem hf
  simp only [Field.mk.sizeOf_spec, Record.mk.sizeOf_spec] at hfields ⊢
  omega

theorem Record.Nested.sizeOf_lt {r s : Record} (h : r.Nested known s) : sizeOf s < sizeOf r := by
  induction h with
  | single h => exact h.sizeOf_lt
  | tail _ h ih => exact Nat.lt_trans h.sizeOf_lt ih

theorem Record.Nested.mem_visits {r s : Record} (h : r.Nested known s) : s ∈ r.visits known := by
  have hheld : ∀ {q t : Record}, q.Holds known t → t ∈ q.visits known := by
    rintro q t ⟨⟨f, hf, hw⟩, hk⟩
    exact Record.mem_visits.2 ⟨f, hf, Shape.mem_visits_of_wraps hw hk (.inl rfl)⟩
  induction h with
  | single h => exact hheld h
  | tail _ h ih => exact Record.visits_trans ih (hheld h)

/-! ## The order of the records -/

/-- A record met in a first part of the traversal stands before one that is not. -/
theorem idxOf_lt_of_met (h : collectRecords known handlers = .ok records)
    {met rest : List Record} (hmet : handlers.flatMap (·.visits known) = met ++ rest)
    {q r : Record} (hq : q ∈ met) (hr : r ∉ met) : records.idxOf q < records.idxOf r := by
  rw [collectRecords_eq, hmet, Walk.result_eq_ok, Walk.takeAll_append] at h
  obtain ⟨hc, rfl⟩ := h
  cases hfirst : (Walk.takeAll met .empty).collision with
  | some c =>
    rw [Walk.andThen_of_some hfirst, hfirst] at hc
    cases hc
  | none =>
    have htaken : ∀ s, s ∈ (Walk.takeAll met .empty).found.toList ↔ s ∈ met := fun s => by
      rw [Walk.mem_takeAll RecordSet.indexed_empty hfirst]
      simp
    rw [Walk.andThen_of_none hfirst] at hc ⊢
    rw [Walk.toList_takeAll (Walk.indexed_takeAll RecordSet.indexed_empty) hc,
      List.idxOf_append_of_mem ((htaken q).2 hq),
      List.idxOf_append_of_notMem fun hmem => hr ((htaken r).1 hmem)]
    have hlt := List.idxOf_lt_length_of_mem ((htaken q).2 hq)
    omega

/-- The same, with the first part ending inside the request or the response of a handler. -/
theorem idxOf_lt_of_met_inside {before after : List Handler} {handler : Handler}
    (h : collectRecords known (before ++ handler :: after) = .ok records) {pre post : List Record}
    (hsplit : handler.request.visits known ++ handler.response.visits known = pre ++ post)
    {q r : Record} (hq : q ∈ before.flatMap (·.visits known) ++ pre)
    (hr : r ∉ before.flatMap (·.visits known) ++ pre) : records.idxOf q < records.idxOf r := by
  have hmet : (before ++ handler :: after).flatMap (·.visits known) =
      (before.flatMap (·.visits known) ++ pre) ++
        (post ++ ([handler.request, handler.response] ++ after.flatMap (·.visits known))) := by
    rw [List.flatMap_append, List.flatMap_cons, Handler.visits, hsplit]
    simp only [List.append_assoc]
  exact idxOf_lt_of_met h hmet hq hr

theorem Handler.mem_visits_of_root {handler : Handler} {root : Record}
    (h : root = handler.request ∨ root = handler.response) : root ∈ handler.visits known :=
  List.mem_append_right _ (List.mem_pair.2 h)

theorem exists_first_met {handler : Handler} (hh : handler ∈ handlers) {r : Record}
    (hr : r ∈ handler.visits known) :
    ∃ before first after, handlers = before ++ first :: after ∧ r ∈ first.visits known ∧
      r ∉ before.flatMap (·.visits known) := by
  obtain ⟨first, hfirst⟩ : ∃ first, handlers.find? (fun q => r ∈ q.visits known) = some first :=
    Option.isSome_iff_exists.1 (List.find?_isSome.2 ⟨handler, hh, decide_eq_true hr⟩)
  obtain ⟨hmet, before, after, hsplit, hbefore⟩ := List.find?_eq_some_iff_append.1 hfirst
  refine ⟨before, first, after, hsplit, of_decide_eq_true hmet, fun hmem => ?_⟩
  obtain ⟨q, hq, hmem⟩ := List.mem_flatMap.1 hmem
  simpa [hmem] using hbefore q hq

/-- The walk comes to `root` inside the request or the response of a handler, and comes neither
to it nor to `s` before that. -/
def FoundInside (known : WellKnownTypes) (handlers : List Handler) (root s : Record) : Prop :=
  ∃ before handler after pre post, handlers = before ++ handler :: after ∧
    handler.request.visits known ++ handler.response.visits known = pre ++ root :: post ∧
    ∀ q ∈ before.flatMap (·.visits known) ++ pre, q ≠ root ∧ q ≠ s

/-- A record that the walk comes to in this way stands before what is nested in it. -/
theorem FoundInside.idxOf_lt {root s : Record} (hinside : FoundInside known handlers root s)
    (h : collectRecords known handlers = .ok records) (hs : root.Nested known s) :
    records.idxOf root < records.idxOf s := by
  obtain ⟨before, handler, after, pre, post, rfl, hsplit, hnot⟩ := hinside
  rw [List.append_cons] at hsplit
  refine idxOf_lt_of_met_inside h hsplit (by simp) fun hmem => ?_
  rw [← List.append_assoc, List.mem_append, List.mem_singleton] at hmem
  rcases hmem with hmem | rfl
  · exact (hnot s hmem).2 rfl
  · exact Nat.lt_irrefl _ hs.sizeOf_lt

/-- A request or a response that the walk does not come to in this way stands after what is
nested in it: that has been met for an earlier handler, or on the way to it inside the same
handler, or in its own fields before it is put in itself. -/
theorem idxOf_lt_of_not_foundInside {root s : Record} {handler : Handler}
    (h : collectRecords known handlers = .ok records) (hh : handler ∈ handlers)
    (hroot : root = handler.request ∨ root = handler.response) (hs : root.Nested known s)
    (hnot : ¬ FoundInside known handlers root s) : records.idxOf s < records.idxOf root := by
  have hmet : root ∈ handler.visits known := Handler.mem_visits_of_root hroot
  obtain ⟨before, first, after, rfl, hfirst, hapart⟩ := exists_first_met hh hmet
  by_cases hearlier : s ∈ before.flatMap (·.visits known)
  · exact idxOf_lt_of_met h List.flatMap_append hearlier hapart
  rw [Handler.visits, List.mem_append] at hfirst
  -- Met inside, it is split from what is met on the way; put in itself, it comes after all inside.
  by_cases hin : root ∈ first.request.visits known ++ first.response.visits known
  · obtain ⟨pre, post, hsplit, hpre⟩ := List.eq_append_cons_of_mem hin
    have hway : s ∈ pre := by
      by_contra hway
      refine hnot ⟨before, first, after, pre, post, rfl, hsplit, fun q hq => ?_⟩
      rcases List.mem_append.1 hq with hq | hq
      · exact ⟨fun heq => hapart (heq ▸ hq), fun heq => hearlier (heq ▸ hq)⟩
      · exact ⟨fun heq => hpre (heq ▸ hq), fun heq => hway (heq ▸ hq)⟩
    refine idxOf_lt_of_met_inside h hsplit (List.mem_append_right _ hway) fun hmem => ?_
    exact (List.mem_append.1 hmem).elim hapart hpre
  · have hown : s ∈ first.request.visits known ++ first.response.visits known := by
      rcases List.mem_pair.1 (hfirst.resolve_left hin) with rfl | rfl
      · exact List.mem_append_left _ hs.mem_visits
      · exact List.mem_append_right _ hs.mem_visits
    have hsplit := (List.append_nil (first.request.visits known ++ first.response.visits known)).symm
    refine idxOf_lt_of_met_inside h hsplit (List.mem_append_right _ hown) fun hmem => ?_
    exact (List.mem_append.1 hmem).elim hapart hin

/-- **What is nested comes first, with one exception.** What is nested in a request or a
response is among the records with it, and stands before it unless the walk comes to the
request or response inside another one, and has not come to the nested record by then. -/
theorem nested_before_root (h : collectRecords known handlers = .ok records) {handler : Handler}
    (hh : handler ∈ handlers) {root : Record}
    (hroot : root = handler.request ∨ root = handler.response) {s : Record}
    (hs : root.Nested known s) :
    s ∈ records ∧ root ∈ records ∧
      (records.idxOf s < records.idxOf root ↔ ¬ FoundInside known handlers root s) := by
  have hmet : root ∈ handler.visits known := Handler.mem_visits_of_root hroot
  have hmem : ∀ r ∈ handler.visits known, r ∈ records := fun r hr =>
    (mem_collectRecords h).2 (mem_visits_iff_needed.1 (List.mem_flatMap.2 ⟨handler, hh, hr⟩))
  refine ⟨hmem s (Handler.visits_trans hmet hs.mem_visits), hmem root hmet, ?_, ?_⟩
  · intro hlt hinside
    exact Nat.lt_asymm hlt (hinside.idxOf_lt h hs)
  · exact idxOf_lt_of_not_foundInside h hh hroot hs

def sampleItem : Record := .ofFields "Item" [("sku", .scalar .text)]

/-- A handler whose response is nested in its request, and has a record nested in itself. -/
def sampleShip : Handler where
  name := "Ship"
  request := .ofFields "Envelope" [("order", .record (.ofFields "Order" [("item", .record sampleItem)]))]
  response := .ofFields "Order" [("item", .record sampleItem)]
  method := .post
  route := "/ship"
  authentication := .anyone
  permissions := []

/-- The response stands before what is nested in it. -/
theorem collectRecords_sampleShip : collectRecords .standard [sampleShip] =
    .ok [sampleShip.response, sampleItem, sampleShip.request] :=
  collectRecords_eq_ok.2 ⟨by decide, by decide⟩

theorem nested_sampleShip_response : sampleShip.response.Nested .standard sampleItem :=
  .single ⟨⟨⟨"item", 1, _⟩, .head _, .record⟩, rfl⟩

theorem nested_sampleShip_request : sampleShip.request.Nested .standard sampleShip.response :=
  .single ⟨⟨⟨"order", 1, _⟩, .head _, .record⟩, rfl⟩

/-- The walk comes to the response of this handler inside its request; its request it comes to
only in the end. -/
theorem nested_before_root_sampleShip :
    FoundInside .standard [sampleShip] sampleShip.response sampleItem ∧
      ¬ FoundInside .standard [sampleShip] sampleShip.request sampleItem := by
  have hresponse := nested_before_root collectRecords_sampleShip (.head _) (.inr rfl)
    nested_sampleShip_response
  have hrequest := nested_before_root collectRecords_sampleShip (.head _) (.inl rfl)
    (nested_sampleShip_request.trans nested_sampleShip_response)
  refine ⟨?_, hrequest.2.2.1 (by decide)⟩
  by_contra hnot
  exact absurd (hresponse.2.2.2 hnot) (by decide)

/-- What is nested does not always come first. -/
theorem not_nested_before_root :
    ¬ ∀ (known : WellKnownTypes) (handlers : List Handler) (records : List Record),
      collectRecords known handlers = .ok records → ∀ handler ∈ handlers, ∀ root s : Record,
        root = handler.request ∨ root = handler.response → root.Nested known s →
          records.idxOf s < records.idxOf root := by
  intro h
  have hbefore := h .standard _ _ collectRecords_sampleShip sampleShip (.head _) _ _ (.inr rfl)
    nested_sampleShip_response
  exact absurd hbefore (by decide)

end ServiceSchema
