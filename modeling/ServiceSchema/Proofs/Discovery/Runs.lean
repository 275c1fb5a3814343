/-
One record set through a run of insertions and walks, in any order, with any records and any
tables of well-known names. After every step the names are different and the index agrees with
the records, and a step adds records at the end only (`sound_after`). A walk that comes to a
collision midway leaves what it has put in by then, and what it leaves is as sound as any other
set.

A walk need not find here what the plain traversal meets: a record that was put in on its own has
not been walked, and a later walk passes over it. So these facts do not come from the comparison
with the traversal but from the walk itself: all it does to a set is to put in records that it
meets, each under a name that is not taken (`Grows`).
-/
import ServiceSchema.Proofs.Discovery.Traversal

namespace ServiceSchema

namespace RecordSet

/-- What holds of a record set at any time. -/
structure Sound (s : RecordSet) : Prop where
  nodup_names : (s.toList.map (·.name)).Nodup
  contains_iff : ∀ name, s.contains name = true ↔ ∃ r ∈ s.toList, r.name = name
  index_eq : ∀ (position : Nat) (r : Record), s.records[position]? = some r →
    s.index[r.name]? = some position
  get?_eq : ∀ r ∈ s.toList, s.get? r.name = some r
  size_eq : s.size = s.toList.length

/-- A set as other sets come from it: some records are put in at the end, each of them under a
name that is not taken by then. -/
inductive Grows (met : List Record) (s : RecordSet) : RecordSet → Prop
  | refl : Grows met s s
  | push {t : RecordSet} {r : Record} : Grows met s t → r ∈ met →
      (∀ q ∈ t.toList, q.name ≠ r.name) → Grows met s (t.push r)

variable {s t u : RecordSet} {met met' : List Record}

theorem Indexed.sound (hs : s.Indexed) : s.Sound where
  nodup_names := hs.nodup_names
  contains_iff name := by
    have hindex : s.contains name = true ↔ ∃ position, s.index[name]? = some position := by
      rw [contains, Std.HashMap.contains_eq_isSome_getElem?, Option.isSome_iff_exists]
    simp only [hindex, hs name, mem_toList]
    constructor
    · rintro ⟨position, r, hr, hn⟩
      exact ⟨r, ⟨position, hr⟩, hn⟩
    · rintro ⟨r, ⟨position, hr⟩, hn⟩
      exact ⟨position, r, hr, hn⟩
  index_eq _ _ hr := hs.index_of_getElem? hr
  get?_eq r hr := by
    obtain ⟨position, hp⟩ := mem_toList.1 hr
    rw [get?, hs.index_of_getElem? hp, Option.bind_some, hp]
  size_eq := rfl

/-- An insertion, told by the records alone. -/
theorem Indexed.insert_eq (hs : s.Indexed) (r : Record) :
    s.insert r = if r ∈ s.toList then .ok (false, s)
      else if ∃ q ∈ s.toList, q.name = r.name then .error ⟨r.name⟩
      else .ok (true, s.push r) := by
  rcases s.insert_cases r with hr | hr | ⟨q, hq, hn, hne⟩
  · rw [if_pos hr, hs.insert_of_mem hr]
  · have hnot : r ∉ s.toList := fun hmem => hr r hmem rfl
    rw [if_neg hnot, if_neg (by simpa using hr), hs.insert_of_new hr]
  · have hnot : r ∉ s.toList := fun hmem => hne (hs.eq_of_name_eq hq hmem hn)
    rw [if_neg hnot, if_pos ⟨q, hq, hn⟩, hs.insert_of_clash hq hn hne]

/-! ## Growing -/

namespace Grows

theorem mono (h : s.Grows met t) (hmet : ∀ r ∈ met, r ∈ met') : s.Grows met' t := by
  induction h with
  | refl => exact .refl
  | push _ hr hn ih => exact ih.push (hmet _ hr) hn

theorem trans (h : s.Grows met t) (h' : t.Grows met u) : s.Grows met u := by
  induction h' with
  | refl => exact h
  | push _ hr hn ih => exact ih.push hr hn

theorem indexed (h : s.Grows met t) (hs : s.Indexed) : t.Indexed := by
  induction h with
  | refl => exact hs
  | push _ _ hn ih => exact ih.push hn

theorem isPrefix (h : s.Grows met t) : s.toList <+: t.toList := by
  induction h with
  | refl => exact List.prefix_rfl
  | push _ _ _ ih =>
    rw [toList_push]
    exact ih.trans (List.prefix_append _ _)

theorem mem (h : s.Grows met t) {r : Record} (hr : r ∈ t.toList) : r ∈ s.toList ∨ r ∈ met := by
  induction h with
  | refl => exact .inl hr
  | push _ hq _ ih =>
    rw [toList_push, List.mem_append, List.mem_singleton] at hr
    rcases hr with hr | rfl
    · exact ih hr
    · exact .inr hq

end Grows

end RecordSet

open RecordSet

/-! ## What a walk does to any set -/

/-- From a set, a walk has put in some of the records met; if it has come to a collision, it is
one between a record met and a record that is there. -/
structure Walk.From (met : List Record) (s : RecordSet) (walk : Walk) : Prop where
  grows : s.Grows met walk.found
  clash : ∀ c, walk.collision = some c →
    ∃ r ∈ met, ∃ q ∈ walk.found.toList, q.name = r.name ∧ q ≠ r ∧ c = ⟨r.name⟩

namespace Walk.From

variable {s : RecordSet} {met met' : List Record} {walk : Walk}

/-- A walk that has not moved. -/
theorem stay : Walk.From met s { found := s } := ⟨.refl, nofun⟩

/-- A walk that stops at a record of a name that another one has. -/
theorem stop {q r : Record} (hr : r ∈ met) (hq : q ∈ s.toList) (hn : q.name = r.name)
    (hne : q ≠ r) : Walk.From met s { found := s, collision := some ⟨r.name⟩ } :=
  ⟨.refl, fun _ hc => ⟨r, hr, q, hq, hn, hne, (Option.some.inj hc).symm⟩⟩

theorem mono (h : Walk.From met s walk) (hmet : ∀ r ∈ met, r ∈ met') : Walk.From met' s walk where
  grows := h.grows.mono hmet
  clash c hc := by
    obtain ⟨r, hr, hclash⟩ := h.clash c hc
    exact ⟨r, hmet r hr, hclash⟩

/-- A walk that goes on from a set that has grown. -/
theorem after {t : RecordSet} (h : Walk.From met t walk) (hgrows : s.Grows met t) :
    Walk.From met s walk :=
  ⟨hgrows.trans h.grows, h.clash⟩

theorem andThen {step : RecordSet → Walk} (hs : s.Indexed) (h : Walk.From met s walk)
    (hstep : ∀ t, t.Indexed → Walk.From met' t (step t)) :
    Walk.From (met ++ met') s (walk.andThen step) := by
  have hfirst : Walk.From (met ++ met') s walk := h.mono fun r hr => List.mem_append_left _ hr
  cases hc : walk.collision with
  | some c =>
    rw [Walk.andThen_of_some hc]
    exact hfirst
  | none =>
    rw [Walk.andThen_of_none hc]
    have hnext := hstep walk.found (h.grows.indexed hs)
    exact (hnext.mono fun r hr => List.mem_append_right _ hr).after hfirst.grows

end Walk.From

theorem Walk.from_take {s : RecordSet} (hs : s.Indexed) (r : Record) :
    Walk.From [r] s (take r s) := by
  rcases s.insert_cases r with hr | hr | ⟨q, hq, hn, hne⟩
  · rw [take_of_mem hs hr]
    exact .stay
  · rw [take_of_new hs hr]
    exact ⟨.push .refl (List.mem_singleton_self r) hr, nofun⟩
  · rw [take_of_clash hs hq hn hne]
    exact .stop (List.mem_singleton_self r) hq hn hne

variable {known : WellKnownTypes}

theorem Field.discoverAll_cons (f : Field) (rest : List Field) (s : RecordSet) :
    Field.discoverAll known s (f :: rest) =
      (f.shape.discoverInto known s).andThen (Field.discoverAll known · rest) := by
  obtain ⟨_, _, shape⟩ := f
  rw [Field.discoverAll]
  cases hc : (shape.discoverInto known s).collision with
  | some c => simp [Walk.andThen_of_some hc]
  | none => simp [Walk.andThen_of_none hc]

mutual

theorem Shape.from_discoverInto : ∀ (shape : Shape) {s : RecordSet}, s.Indexed →
    Walk.From (shape.visits known) s (shape.discoverInto known s)
  | .scalar _, _, _ => by
    rw [Shape.discoverInto]
    exact .stay
  | .sequence element, _, hs => by
    rw [Shape.discoverInto, Shape.visits]
    exact Shape.from_discoverInto element hs
  | .map _ value, _, hs => by
    rw [Shape.discoverInto, Shape.visits]
    exact Shape.from_discoverInto value hs
  | .record r, s, hs => by
    rw [Shape.discoverInto, Shape.visits]
    split
    · exact .stay
    rcases s.insert_cases r with hr | hr | ⟨q, hq, hn, hne⟩
    · rw [hs.insert_of_mem hr]
      exact .stay
    · rw [hs.insert_of_new hr]
      have hnested := Record.from_discoverInto r (hs.push hr)
      exact (hnested.mono fun q hq => List.mem_cons_of_mem _ hq).after
        (.push .refl List.mem_cons_self hr)
    · rw [hs.insert_of_clash hq hn hne]
      exact .stop List.mem_cons_self hq hn hne

theorem Record.from_discoverInto : ∀ (r : Record) {s : RecordSet}, s.Indexed →
    Walk.From (r.visits known) s (r.discoverInto known s)
  | ⟨_, fields⟩, _, hs => by
    rw [Record.discoverInto, Record.visits]
    exact Field.from_discoverAll fields hs

theorem Field.from_discoverAll : ∀ (fields : List Field) {s : RecordSet}, s.Indexed →
    Walk.From (Field.visits known fields) s (Field.discoverAll known s fields)
  | [], _, _ => by
    rw [Field.discoverAll]
    exact .stay
  | ⟨_, _, shape⟩ :: rest, _, hs => by
    rw [Field.discoverAll_cons, Field.visits]
    exact (Shape.from_discoverInto shape hs).andThen hs
      fun _ ht => Field.from_discoverAll rest ht

end

/-! ## Runs -/

namespace RecordSet

/-- What can be done with a record set that is under way. -/
inductive Operation where
  | insert (r : Record)
  | discover (known : WellKnownTypes) (root : Record)

namespace Operation

/-- Does an operation. A collision is told beside the set that it leaves. -/
def run : Operation → RecordSet → Walk
  | .insert r, s => Walk.take r s
  | .discover known root, s => root.discoverInto known s

/-- The records that an operation may put in. -/
def met : Operation → List Record
  | .insert r => [r]
  | .discover known root => root.visits known

theorem from_run {s : RecordSet} (hs : s.Indexed) (op : Operation) :
    Walk.From op.met s (op.run s) := by
  cases op with
  | insert r => exact Walk.from_take hs r
  | discover known root => exact Record.from_discoverInto root hs

end Operation

/-- The set after some operations, one after the other, whether they come to a collision or not. -/
def after (ops : List Operation) : RecordSet :=
  ops.foldl (fun s op => (op.run s).found) .empty

theorem after_concat (ops : List Operation) (op : Operation) :
    after (ops ++ [op]) = (op.run (after ops)).found := by
  simp [after]

theorem indexed_foldl (ops : List Operation) {s : RecordSet} (hs : s.Indexed) :
    (ops.foldl (fun s op => (op.run s).found) s).Indexed := by
  induction ops generalizing s with
  | nil => exact hs
  | cons op rest ih => exact ih ((op.from_run hs).grows.indexed hs)

theorem indexed_after (ops : List Operation) : (after ops).Indexed := indexed_foldl ops indexed_empty

theorem after_insert_of_taken {ops : List Operation} {r : Record}
    (h : ∃ q ∈ (after ops).toList, q.name = r.name) : after (ops ++ [.insert r]) = after ops := by
  rw [after_concat, Operation.run, Walk.take, (indexed_after ops).insert_eq r]
  by_cases hr : r ∈ (after ops).toList
  · rw [if_pos hr]
  · rw [if_neg hr, if_pos h]

/-- **A record set through a whole run.** Whatever has been done with a set, and whatever is done
next: the set is sound before and after it, the records before are the first ones after, and all
that is new has been met. A collision is one with a record that is there. An insertion answers
what the records tell, and changes nothing when the name is taken. -/
theorem sound_after (ops : List Operation) (op : Operation) :
    (after ops).Sound ∧ (after (ops ++ [op])).Sound ∧
    (after ops).toList <+: (after (ops ++ [op])).toList ∧
    (∀ r ∈ (after (ops ++ [op])).toList, r ∈ (after ops).toList ∨ r ∈ op.met) ∧
    (∀ c, (op.run (after ops)).collision = some c → ∃ r ∈ op.met,
      ∃ q ∈ (after (ops ++ [op])).toList, q.name = r.name ∧ q ≠ r ∧ c = ⟨r.name⟩) ∧
    (∀ r, (after ops).insert r =
      if r ∈ (after ops).toList then .ok (false, after ops)
      else if ∃ q ∈ (after ops).toList, q.name = r.name then .error ⟨r.name⟩
      else .ok (true, (after ops).push r)) ∧
    ∀ r, (∃ q ∈ (after ops).toList, q.name = r.name) → after (ops ++ [.insert r]) = after ops := by
  have hs : (after ops).Indexed := indexed_after ops
  have hrun : Walk.From op.met (after ops) (op.run (after ops)) := op.from_run hs
  refine ⟨hs.sound, (indexed_after (ops ++ [op])).sound, ?_, ?_, ?_, hs.insert_eq, ?_⟩
  · rw [after_concat]
    exact hrun.grows.isPrefix
  · intro r hr
    rw [after_concat] at hr
    exact hrun.grows.mem hr
  · rw [after_concat]
    exact hrun.clash
  · exact fun r => after_insert_of_taken

end RecordSet

end ServiceSchema
