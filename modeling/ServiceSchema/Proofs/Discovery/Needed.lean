/-
The records that a schema has to define, told without any walk (`Needed`): those
of its handlers, and, with a record, those nested in it. The walk finds them all,
finds nothing else, and fails exactly when two of them have one name
(`collectRecords_spec`).
-/
import ServiceSchema.Proofs.Discovery.Traversal

namespace ServiceSchema

/-- A shape is a record or wraps it, in sequences and in the values of maps. -/
inductive Shape.Wraps : Shape → Record → Prop
  | record {r : Record} : Wraps (.record r) r
  | sequence {element : Shape} {r : Record} : Wraps element r → Wraps (.sequence element) r
  | map {key value : Shape} {r : Record} : Wraps value r → Wraps (.map key value) r

/-- The least set of records that holds the request and the response of each handler
and, with a record, those that its fields are or wrap, well-known names apart. -/
inductive Needed (known : WellKnownTypes) (handlers : List Handler) : Record → Prop
  | request {h : Handler} : h ∈ handlers → Needed known handlers h.request
  | response {h : Handler} : h ∈ handlers → Needed known handlers h.response
  | nested {r s : Record} {f : Field} : Needed known handlers r → f ∈ r.fields →
      f.shape.Wraps s → known.contains s.name = false → Needed known handlers s

variable {known : WellKnownTypes}

/-! ## The traversal meets the nested records -/

theorem Shape.mem_visits_of_wraps {shape : Shape} {r s : Record} (h : shape.Wraps r)
    (hk : known.contains r.name = false) (hs : s = r ∨ s ∈ r.visits known) :
    s ∈ shape.visits known := by
  induction h with
  | record => simpa [Shape.visits, hk] using hs
  | sequence _ ih => rw [Shape.visits]; exact ih hk hs
  | map _ ih => rw [Shape.visits]; exact ih hk hs

theorem Field.visits_cons (f : Field) (rest : List Field) :
    Field.visits known (f :: rest) = f.shape.visits known ++ Field.visits known rest := by
  obtain ⟨_, _, _⟩ := f
  rw [Field.visits]

theorem Field.mem_visits {fields : List Field} {s : Record} :
    s ∈ Field.visits known fields ↔ ∃ f ∈ fields, s ∈ f.shape.visits known := by
  induction fields with
  | nil => simp [Field.visits]
  | cons f rest ih => simp [Field.visits_cons, ih]

theorem Record.mem_visits {r s : Record} :
    s ∈ r.visits known ↔ ∃ f ∈ r.fields, s ∈ f.shape.visits known := by
  obtain ⟨_, fields⟩ := r
  rw [Record.visits, Field.mem_visits]

/-- A record nested in one that is met is met. -/
theorem mem_visits_nested {handlers : List Handler} {r s : Record} {f : Field}
    (hr : r ∈ handlers.flatMap (·.visits known)) (hf : f ∈ r.fields) (hw : f.shape.Wraps s)
    (hk : known.contains s.name = false) : s ∈ handlers.flatMap (·.visits known) := by
  obtain ⟨h, hh, hr⟩ := List.mem_flatMap.1 hr
  have hs : s ∈ r.visits known :=
    Record.mem_visits.2 ⟨f, hf, Shape.mem_visits_of_wraps hw hk (.inl rfl)⟩
  exact List.mem_flatMap.2 ⟨h, hh, Handler.visits_trans hr hs⟩

theorem mem_visits_of_needed {handlers : List Handler} {r : Record} (h : Needed known handlers r) :
    r ∈ handlers.flatMap (·.visits known) := by
  induction h with
  | request hh => exact List.mem_flatMap.2 ⟨_, hh, by simp [Handler.visits]⟩
  | response hh => exact List.mem_flatMap.2 ⟨_, hh, by simp [Handler.visits]⟩
  | nested _ hf hw hk ih => exact mem_visits_nested ih hf hw hk

/-! ## Nothing else is met -/

section

variable {handlers : List Handler}

mutual

/-- What is met from a shape is needed, if all that the shape wraps is. -/
theorem Shape.needed_of_mem_visits : ∀ {shape : Shape} {s : Record},
    (∀ r, shape.Wraps r → known.contains r.name = false → Needed known handlers r) →
    s ∈ shape.visits known → Needed known handlers s
  | .scalar _, _, _, hs => by simp [Shape.visits] at hs
  | .sequence element, _, h, hs => by
    rw [Shape.visits] at hs
    exact Shape.needed_of_mem_visits (fun r hr => h r (.sequence hr)) hs
  | .map _ value, _, h, hs => by
    rw [Shape.visits] at hs
    exact Shape.needed_of_mem_visits (fun r hr => h r (.map hr)) hs
  | .record r, s, h, hs => by
    rw [Shape.visits] at hs
    split at hs
    · cases hs
    · rename_i hk
      have hr : Needed known handlers r := h r .record (by simpa using hk)
      rcases List.mem_cons.1 hs with rfl | hs
      · exact hr
      · exact Record.needed_of_mem_visits hr hs

theorem Record.needed_of_mem_visits : ∀ {r s : Record}, Needed known handlers r →
    s ∈ r.visits known → Needed known handlers s
  | ⟨_, fields⟩, _, hr, hs => by
    rw [Record.visits] at hs
    exact Field.needed_of_mem_visits (fun f hf q hq hk => .nested hr hf hq hk) hs

theorem Field.needed_of_mem_visits : ∀ {fields : List Field} {s : Record},
    (∀ f ∈ fields, ∀ r, f.shape.Wraps r → known.contains r.name = false → Needed known handlers r) →
    s ∈ Field.visits known fields → Needed known handlers s
  | [], _, _, hs => by simp [Field.visits] at hs
  | ⟨name, ordinal, shape⟩ :: rest, _, h, hs => by
    rw [Field.visits, List.mem_append] at hs
    rcases hs with hs | hs
    · exact Shape.needed_of_mem_visits (h ⟨name, ordinal, shape⟩ (by simp)) hs
    · exact Field.needed_of_mem_visits (fun f hf => h f (List.mem_cons_of_mem _ hf)) hs

end

/-- The records met for some handlers are those that their schema needs. -/
theorem mem_visits_iff_needed {r : Record} :
    r ∈ handlers.flatMap (·.visits known) ↔ Needed known handlers r := by
  refine ⟨fun hr => ?_, mem_visits_of_needed⟩
  obtain ⟨h, hh, hr⟩ := List.mem_flatMap.1 hr
  simp only [Handler.visits, List.mem_append, List.mem_cons, List.not_mem_nil, or_false] at hr
  rcases hr with (hr | hr) | rfl | rfl
  · exact Record.needed_of_mem_visits (.request hh) hr
  · exact Record.needed_of_mem_visits (.response hh) hr
  · exact .request hh
  · exact .response hh

end

/-! ## The records of a schema -/

theorem Walk.result_eq_ok {walk : Walk} {records : List Record} :
    walk.result = .ok records ↔ walk.collision = none ∧ walk.found.toList = records := by
  unfold Walk.result
  split <;> simp_all

section

variable {handlers : List Handler} {records : List Record}

theorem mem_collectRecords (h : collectRecords known handlers = .ok records) {r : Record} :
    r ∈ records ↔ Needed known handlers r := by
  rw [collectRecords_eq, Walk.result_eq_ok] at h
  obtain ⟨hc, rfl⟩ := h
  rw [Walk.mem_takeAll RecordSet.indexed_empty hc, ← mem_visits_iff_needed]
  simp

theorem nodup_names_collectRecords (h : collectRecords known handlers = .ok records) :
    (records.map (·.name)).Nodup := by
  rw [collectRecords_eq, Walk.result_eq_ok] at h
  obtain ⟨-, rfl⟩ := h
  exact (Walk.indexed_takeAll RecordSet.indexed_empty).nodup_names

end

/-- There is an answer exactly when no two of the records needed have one name. -/
theorem exists_collectRecords_iff {handlers : List Handler} :
    (∃ records, collectRecords known handlers = .ok records) ↔
      ∀ r s, Needed known handlers r → Needed known handlers s → r.name = s.name → r = s := by
  simp only [collectRecords_eq, Walk.result_eq_ok, exists_and_left, exists_eq', and_true]
  rw [Walk.takeAll_collision RecordSet.indexed_empty]
  simp only [RecordSet.toList_empty, List.not_mem_nil, false_or, mem_visits_iff_needed]

/-- **What a schema defines.** There is an answer exactly when no two of the records
needed have one name. It then holds every record needed, nothing else, and no name
twice. -/
theorem collectRecords_spec (known : WellKnownTypes) (handlers : List Handler) :
    ((∃ records, collectRecords known handlers = .ok records) ↔
      ∀ r s, Needed known handlers r → Needed known handlers s → r.name = s.name → r = s) ∧
    ∀ records, collectRecords known handlers = .ok records →
      (∀ r, r ∈ records ↔ Needed known handlers r) ∧ records.Nodup ∧
        (records.map (·.name)).Nodup := by
  refine ⟨exists_collectRecords_iff, fun records h => ?_⟩
  have hnames := nodup_names_collectRecords h
  exact ⟨fun r => mem_collectRecords h, List.Nodup.of_map _ hnames, hnames⟩

end ServiceSchema
