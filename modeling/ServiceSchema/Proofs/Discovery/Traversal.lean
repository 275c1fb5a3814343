/-
The walk for the records of a schema leaves out a record that it has met before.
Here is the walk that leaves out nothing (`visits`), and the proof that the two
find the same: the walk is `takeAll` of the plain traversal
(`collectRecords_eq`).

What makes leaving out harmless is that a record met before has been walked to its
end. The one exception is a record whose walk is still going on, and from inside
its own walk it cannot be met, since a record is larger than all that is nested in
it: hence `ClosedBelow`, closure for the records no larger than what is still to be
walked.
-/
import ServiceSchema.Proofs.RecordSet

namespace ServiceSchema

mutual

/-- The records met from a shape, parents before children, each as often as it is
met. One with a well-known name is not entered. -/
def Shape.visits (known : WellKnownTypes) : Shape → List Record
  | .scalar _ => []
  | .sequence element => element.visits known
  | .map _ value => value.visits known
  | .record r => if known.contains r.name then [] else r :: r.visits known

/-- The records met from the fields of a record. -/
def Record.visits (known : WellKnownTypes) : Record → List Record
  | ⟨_, fields⟩ => Field.visits known fields

def Field.visits (known : WellKnownTypes) : List Field → List Record
  | [] => []
  | ⟨_, _, shape⟩ :: rest => shape.visits known ++ Field.visits known rest

end

/-- The records met for a handler: from its request, from its response, and the two
themselves. -/
def Handler.visits (known : WellKnownTypes) (h : Handler) : List Record :=
  h.request.visits known ++ h.response.visits known ++ [h.request, h.response]

variable {known : WellKnownTypes}

mutual

/-- What is met from a record met is met. -/
theorem Shape.visits_trans : ∀ {shape : Shape} {r s : Record}, r ∈ shape.visits known →
    s ∈ r.visits known → s ∈ shape.visits known
  | .scalar _, _, _, hr, _ => by simp [Shape.visits] at hr
  | .sequence element, _, _, hr, hs => by
    rw [Shape.visits] at hr ⊢
    exact Shape.visits_trans hr hs
  | .map _ value, _, _, hr, hs => by
    rw [Shape.visits] at hr ⊢
    exact Shape.visits_trans hr hs
  | .record q, r, s, hr, hs => by
    rw [Shape.visits] at hr ⊢
    split at hr
    · cases hr
    · rename_i hk
      rw [if_neg hk]
      rcases List.mem_cons.1 hr with rfl | hr
      · exact List.mem_cons_of_mem _ hs
      · exact List.mem_cons_of_mem _ (Record.visits_trans hr hs)

theorem Record.visits_trans : ∀ {q r s : Record}, r ∈ q.visits known → s ∈ r.visits known →
    s ∈ q.visits known
  | ⟨_, fields⟩, _, _, hr, hs => by
    rw [Record.visits] at hr ⊢
    exact Field.visits_trans hr hs

theorem Field.visits_trans : ∀ {fields : List Field} {r s : Record}, r ∈ Field.visits known fields →
    s ∈ r.visits known → s ∈ Field.visits known fields
  | [], _, _, hr, _ => by simp [Field.visits] at hr
  | ⟨_, _, shape⟩ :: rest, _, _, hr, hs => by
    rw [Field.visits, List.mem_append] at hr ⊢
    rcases hr with hr | hr
    · exact .inl (Shape.visits_trans hr hs)
    · exact .inr (Field.visits_trans hr hs)

end

theorem Handler.visits_trans {h : Handler} {r s : Record} (hr : r ∈ h.visits known)
    (hs : s ∈ r.visits known) : s ∈ h.visits known := by
  simp only [Handler.visits, List.mem_append, List.mem_cons, List.not_mem_nil, or_false] at hr ⊢
  rcases hr with (hr | hr) | rfl | rfl
  · exact .inl (.inl (Record.visits_trans hr hs))
  · exact .inl (.inr (Record.visits_trans hr hs))
  · exact .inl (.inl hs)
  · exact .inl (.inr hs)

/-! ## A set in which what has been met has been walked -/

namespace RecordSet

/-- With each of its records of at most some size, a set has all that is met from it. -/
def ClosedBelow (known : WellKnownTypes) (size : Nat) (found : RecordSet) : Prop :=
  ∀ r ∈ found.toList, sizeOf r ≤ size → ∀ s ∈ r.visits known, s ∈ found.toList

theorem ClosedBelow.mono {found : RecordSet} {m n : Nat} (h : found.ClosedBelow known n)
    (hmn : m ≤ n) : found.ClosedBelow known m :=
  fun r hr hle => h r hr (Nat.le_trans hle hmn)

/-- Taking in all that is met from somewhere keeps a set closed. -/
theorem ClosedBelow.takeAll {found : RecordSet} {n : Nat} (h : found.ClosedBelow known n)
    (hf : found.Indexed) {rs : List Record}
    (htrans : ∀ {r s}, r ∈ rs → s ∈ Record.visits known r → s ∈ rs)
    (hc : (Walk.takeAll rs found).collision = none) :
    (Walk.takeAll rs found).found.ClosedBelow known n := by
  intro r hr hle s hs
  rw [Walk.mem_takeAll hf hc] at hr ⊢
  rcases hr with hr | hr
  · exact .inl (h r hr hle s hs)
  · exact .inr (htrans hr hs)

/-- A record that comes in is larger than what will be walked next. -/
theorem ClosedBelow.push {found : RecordSet} {n : Nat} {r : Record}
    (h : found.ClosedBelow known n) (hlt : n < sizeOf r) : (found.push r).ClosedBelow known n := by
  intro q hq hle s hs
  rw [toList_push, List.mem_append, List.mem_singleton] at hq ⊢
  rcases hq with hq | rfl
  · exact .inl (h q hq hle s hs)
  · omega

end RecordSet

/-! ## The walk is the traversal -/

mutual

theorem Shape.discoverInto_eq : ∀ (shape : Shape) {found : RecordSet}, found.Indexed →
    found.ClosedBelow known (sizeOf shape) →
    shape.discoverInto known found = Walk.takeAll (shape.visits known) found
  | .scalar _, found, _, _ => by simp [Shape.discoverInto, Shape.visits, Walk.takeAll]
  | .sequence element, found, hf, hc => by
    rw [Shape.discoverInto, Shape.visits]
    exact Shape.discoverInto_eq element hf (hc.mono (by simp))
  | .map key value, found, hf, hc => by
    rw [Shape.discoverInto, Shape.visits]
    exact Shape.discoverInto_eq value hf (hc.mono (by simp))
  | .record r, found, hf, hc => by
    rw [Shape.discoverInto, Shape.visits]
    split
    · rfl
    have hle : sizeOf r ≤ sizeOf (Shape.record r) := by simp
    rw [Walk.takeAll]
    rcases found.insert_cases r with hr | hr | ⟨q, hq, hn, hne⟩
    · rw [hf.insert_of_mem hr, Walk.take_of_mem hf hr, Walk.andThen_of_none rfl]
      exact (Walk.takeAll_of_subset hf (hc r hr hle)).symm
    · rw [hf.insert_of_new hr, Walk.take_of_new hf hr, Walk.andThen_of_none rfl]
      exact Record.discoverInto_eq r (hf.push hr) fun n hn => (hc.mono (by omega)).push hn
    · rw [hf.insert_of_clash hq hn hne, Walk.take_of_clash hf hq hn hne, Walk.andThen_of_some rfl]

theorem Record.discoverInto_eq : ∀ (r : Record) {found : RecordSet}, found.Indexed →
    (∀ n, n < sizeOf r → found.ClosedBelow known n) →
    r.discoverInto known found = Walk.takeAll (r.visits known) found
  | ⟨_, fields⟩, found, hf, hc => by
    rw [Record.discoverInto, Record.visits]
    exact Field.discoverAll_eq fields hf (hc _ (by rw [Record.mk.sizeOf_spec]; omega))

theorem Field.discoverAll_eq : ∀ (fields : List Field) {found : RecordSet}, found.Indexed →
    found.ClosedBelow known (sizeOf fields) →
    Field.discoverAll known found fields = Walk.takeAll (Field.visits known fields) found
  | [], found, _, _ => by simp [Field.discoverAll, Field.visits, Walk.takeAll]
  | ⟨_, _, shape⟩ :: rest, found, hf, hc => by
    rw [Field.discoverAll, Field.visits, Walk.takeAll_append,
      Shape.discoverInto_eq shape hf (hc.mono (by simp; omega))]
    cases hw : (Walk.takeAll (shape.visits known) found).collision with
    | some c => simp [Walk.andThen_of_some hw]
    | none =>
      simp only [Walk.andThen_of_none hw, Option.isSome_none, Bool.false_eq_true, if_false]
      exact Field.discoverAll_eq rest (Walk.indexed_takeAll hf)
        ((hc.mono (by simp)).takeAll hf Shape.visits_trans hw)

end

theorem Handler.discoverInto_eq (h : Handler) {found : RecordSet} (hf : found.Indexed)
    (hc : ∀ n, found.ClosedBelow known n) :
    h.discoverInto known found = Walk.takeAll (h.visits known) found := by
  rw [Handler.discoverInto, Handler.visits, Walk.takeAll_append, Walk.takeAll_append,
    Record.discoverInto_eq h.request hf fun n _ => hc n]
  have hresponse : (Walk.takeAll (h.request.visits known) found).andThen (h.response.discoverInto known ·)
      = (Walk.takeAll (h.request.visits known) found).andThen
          (Walk.takeAll (h.response.visits known)) :=
    Walk.andThen_congr fun hw => Record.discoverInto_eq h.response (Walk.indexed_takeAll hf)
      fun n _ => (hc n).takeAll hf Record.visits_trans hw
  rw [hresponse, Walk.andThen_assoc _ (Walk.take h.request)]
  refine Walk.andThen_congr fun _ => ?_
  rw [Walk.takeAll]
  exact Walk.andThen_congr fun _ => (Walk.takeAll_singleton _ _).symm

theorem Handler.discoverAll_eq (handlers : List Handler) {found : RecordSet} (hf : found.Indexed)
    (hc : ∀ n, found.ClosedBelow known n) :
    Handler.discoverAll known found handlers =
      Walk.takeAll (handlers.flatMap (·.visits known)) found := by
  induction handlers generalizing found with
  | nil => rfl
  | cons h rest ih =>
    rw [Handler.discoverAll, List.flatMap_cons, Walk.takeAll_append, Handler.discoverInto_eq h hf hc]
    exact Walk.andThen_congr fun hw => ih (Walk.indexed_takeAll hf)
      fun n => (hc n).takeAll hf Handler.visits_trans hw

/-- The records of a schema are those met for its handlers, each taken in once. -/
theorem collectRecords_eq (handlers : List Handler) :
    collectRecords known handlers =
      (Walk.takeAll (handlers.flatMap (·.visits known)) .empty).result := by
  rw [collectRecords, Handler.discoverAll_eq handlers RecordSet.indexed_empty]
  intro n r hr
  simp at hr

end ServiceSchema
