/-
A record set whose index agrees with its records (`Indexed`): what an insertion
does to it, told by its records alone, and what taking in a whole list of records
does. A list can be taken in exactly when no name has two records in it
(`takeAll_collision`), and what is taken in then is everything
(`mem_takeAll`), each name once.
-/
import Mathlib.Data.List.Nodup
import ServiceSchema.Discovery

namespace ServiceSchema

namespace RecordSet

/-- The index gives, for each name, the position of the record of that name. -/
def Indexed (s : RecordSet) : Prop :=
  ∀ name position,
    s.index[name]? = some position ↔ ∃ r : Record, s.records[position]? = some r ∧ r.name = name

theorem indexed_empty : empty.Indexed := by simp [Indexed, empty]

@[simp] theorem toList_empty : empty.toList = [] := rfl

@[simp] theorem toList_push (s : RecordSet) (r : Record) : (s.push r).toList = s.toList ++ [r] := by
  simp [push, toList]

theorem mem_toList {s : RecordSet} {r : Record} :
    r ∈ s.toList ↔ ∃ position : Nat, s.records[position]? = some r := by
  rw [toList, Array.mem_toList_iff, Array.mem_iff_getElem?]

/-- A record is found at its position. -/
theorem Indexed.index_of_getElem? {s : RecordSet} (hs : s.Indexed) {r : Record} {position : Nat}
    (hr : s.records[position]? = some r) : s.index[r.name]? = some position :=
  (hs r.name position).2 ⟨r, hr, rfl⟩

theorem Indexed.eq_of_name_eq {s : RecordSet} (hs : s.Indexed) {q r : Record} (hq : q ∈ s.toList)
    (hr : r ∈ s.toList) (hn : q.name = r.name) : q = r := by
  obtain ⟨i, hi⟩ := mem_toList.1 hq
  obtain ⟨j, hj⟩ := mem_toList.1 hr
  have hpos : some i = some j := by
    rw [← hs.index_of_getElem? hi, ← hs.index_of_getElem? hj, hn]
  cases hpos
  exact Option.some.inj (hi.symm.trans hj)

theorem Indexed.index_eq_none {s : RecordSet} (hs : s.Indexed) {name : String}
    (hn : ∀ q ∈ s.toList, q.name ≠ name) : s.index[name]? = none := by
  cases hi : s.index[name]? with
  | none => rfl
  | some position =>
    obtain ⟨r, hr, hname⟩ := (hs name position).1 hi
    exact absurd hname (hn r (mem_toList.2 ⟨position, hr⟩))

theorem Indexed.push {s : RecordSet} (hs : s.Indexed) {r : Record}
    (hn : ∀ q ∈ s.toList, q.name ≠ r.name) : (s.push r).Indexed := by
  intro name position
  simp only [RecordSet.push, Std.HashMap.getElem?_insert, Array.getElem?_push, beq_iff_eq]
  by_cases hname : r.name = name
  · subst hname
    simp only [if_true, Option.some.injEq]
    constructor
    · rintro rfl
      exact ⟨r, by simp, rfl⟩
    · intro h
      obtain ⟨q, hq, hqn⟩ := h
      split at hq
      · rename_i hp
        exact hp.symm
      · exact absurd hqn (hn q (mem_toList.2 ⟨position, hq⟩))
  · rw [if_neg hname, hs name position]
    constructor
    · intro h
      obtain ⟨q, hq, hqn⟩ := h
      refine ⟨q, ?_, hqn⟩
      rw [if_neg]
      · exact hq
      · rintro rfl
        simp at hq
    · intro h
      obtain ⟨q, hq, hqn⟩ := h
      split at hq
      · cases hq
        exact absurd hqn hname
      · exact ⟨q, hq, hqn⟩

theorem Indexed.nodup_names {s : RecordSet} (hs : s.Indexed) : (s.toList.map (·.name)).Nodup := by
  rw [List.nodup_iff_pairwise_ne, List.pairwise_map, List.pairwise_iff_getElem]
  intro i j hi hj hlt hn
  have at_position : ∀ k (hk : k < s.toList.length), s.index[s.toList[k].name]? = some k :=
    fun k hk => hs.index_of_getElem? (by rw [← Array.getElem?_toList]; exact List.getElem?_eq_getElem hk)
  have hpos : some i = some j := by rw [← at_position i hi, ← at_position j hj, hn]
  cases hpos
  omega

/-! ## Insertion -/

theorem Indexed.insert_of_mem {s : RecordSet} (hs : s.Indexed) {r : Record} (hr : r ∈ s.toList) :
    s.insert r = .ok (false, s) := by
  obtain ⟨position, hp⟩ := mem_toList.1 hr
  simp [insert, hs.index_of_getElem? hp, hp]

theorem Indexed.insert_of_new {s : RecordSet} (hs : s.Indexed) {r : Record}
    (hn : ∀ q ∈ s.toList, q.name ≠ r.name) : s.insert r = .ok (true, s.push r) := by
  simp [insert, hs.index_eq_none hn]

theorem Indexed.insert_of_clash {s : RecordSet} (hs : s.Indexed) {q r : Record}
    (hq : q ∈ s.toList) (hn : q.name = r.name) (hne : q ≠ r) : s.insert r = .error ⟨r.name⟩ := by
  obtain ⟨position, hp⟩ := mem_toList.1 hq
  simp [insert, ← hn, hs.index_of_getElem? hp, hp, hne]

/-- What can happen when a record is put in: it is there, its name is new, or its name
is that of another record. -/
theorem insert_cases (s : RecordSet) (r : Record) :
    r ∈ s.toList ∨ (∀ q ∈ s.toList, q.name ≠ r.name) ∨ ∃ q ∈ s.toList, q.name = r.name ∧ q ≠ r := by
  by_cases hnew : ∀ q ∈ s.toList, q.name ≠ r.name
  · exact .inr (.inl hnew)
  · simp only [ne_eq, not_forall, not_not] at hnew
    obtain ⟨q, hq, hn⟩ := hnew
    by_cases hqr : q = r
    · exact .inl (hqr ▸ hq)
    · exact .inr (.inr ⟨q, hq, hn, hqr⟩)

end RecordSet

/-! ## Taking in a list of records -/

namespace Walk

/-- Takes in records one after the other, up to a collision. -/
def takeAll : List Record → RecordSet → Walk
  | [], found => { found }
  | r :: rest, found => (take r found).andThen (takeAll rest)

theorem andThen_of_none {walk : Walk} (h : walk.collision = none) (step : RecordSet → Walk) :
    walk.andThen step = step walk.found := by
  simp [andThen, h]

theorem andThen_of_some {walk : Walk} {c : NameCollision} (h : walk.collision = some c)
    (step : RecordSet → Walk) : walk.andThen step = walk := by
  simp [andThen, h]

theorem andThen_congr {walk : Walk} {f g : RecordSet → Walk}
    (h : walk.collision = none → f walk.found = g walk.found) : walk.andThen f = walk.andThen g := by
  cases hc : walk.collision with
  | none => rw [andThen_of_none hc, andThen_of_none hc, h hc]
  | some c => rw [andThen_of_some hc, andThen_of_some hc]

theorem andThen_assoc (walk : Walk) (f g : RecordSet → Walk) :
    (walk.andThen f).andThen g = walk.andThen fun found => (f found).andThen g := by
  cases h : walk.collision with
  | none => simp only [andThen_of_none h]
  | some c => simp only [andThen_of_some h]

theorem takeAll_append (rs qs : List Record) (found : RecordSet) :
    takeAll (rs ++ qs) found = (takeAll rs found).andThen (takeAll qs) := by
  induction rs generalizing found with
  | nil => simp [takeAll, andThen]
  | cons r rest ih =>
    simp only [List.cons_append, takeAll, andThen_assoc]
    congr 1
    exact funext ih

theorem takeAll_singleton (r : Record) (found : RecordSet) : takeAll [r] found = take r found := by
  cases h : (take r found).collision with
  | none =>
    rw [takeAll, andThen_of_none h, takeAll]
    cases hw : take r found
    simp_all
  | some c => rw [takeAll, andThen_of_some h]

section

variable {found : RecordSet} (hf : found.Indexed)

include hf

theorem take_of_mem {r : Record} (hr : r ∈ found.toList) : take r found = { found } := by
  simp [take, hf.insert_of_mem hr]

theorem take_of_new {r : Record} (hn : ∀ q ∈ found.toList, q.name ≠ r.name) :
    take r found = { found := found.push r } := by
  simp [take, hf.insert_of_new hn]

theorem take_of_clash {q r : Record} (hq : q ∈ found.toList) (hn : q.name = r.name) (hne : q ≠ r) :
    take r found = { found, collision := some ⟨r.name⟩ } := by
  simp [take, hf.insert_of_clash hq hn hne]

/-- Records that are there already change nothing. -/
theorem takeAll_of_subset {rs : List Record} (hrs : ∀ r ∈ rs, r ∈ found.toList) :
    takeAll rs found = { found } := by
  induction rs with
  | nil => rfl
  | cons r rest ih =>
    rw [takeAll, take_of_mem hf (hrs r (by simp)), andThen_of_none rfl]
    exact ih fun q hq => hrs q (List.mem_cons_of_mem _ hq)

end

theorem indexed_takeAll {rs : List Record} {found : RecordSet} (hf : found.Indexed) :
    (takeAll rs found).found.Indexed := by
  induction rs generalizing found with
  | nil => exact hf
  | cons r rest ih =>
    rw [takeAll]
    rcases found.insert_cases r with hr | hr | ⟨q, hq, hn, hne⟩
    · rw [take_of_mem hf hr, andThen_of_none rfl]
      exact ih hf
    · rw [take_of_new hf hr, andThen_of_none rfl]
      exact ih (hf.push hr)
    · rw [take_of_clash hf hq hn hne, andThen_of_some rfl]
      exact hf

/-- What is there after a list has been taken in: what was there, and the list. -/
theorem mem_takeAll {rs : List Record} {found : RecordSet} (hf : found.Indexed)
    (hc : (takeAll rs found).collision = none) (s : Record) :
    s ∈ (takeAll rs found).found.toList ↔ s ∈ found.toList ∨ s ∈ rs := by
  induction rs generalizing found with
  | nil => simp [takeAll]
  | cons r rest ih =>
    rw [takeAll] at hc ⊢
    rcases found.insert_cases r with hr | hr | ⟨q, hq, hn, hne⟩
    · rw [take_of_mem hf hr, andThen_of_none rfl] at hc ⊢
      rw [ih hf hc, List.mem_cons]
      constructor
      · exact Or.imp_right Or.inr
      · rintro (h | rfl | h)
        · exact .inl h
        · exact .inl hr
        · exact .inr h
    · rw [take_of_new hf hr, andThen_of_none rfl] at hc ⊢
      rw [ih (hf.push hr) hc]
      simp [or_assoc]
    · rw [take_of_clash hf hq hn hne, andThen_of_some rfl] at hc
      cases hc

/-- A list can be taken in when no name has two records, there and in the list. -/
theorem takeAll_collision {rs : List Record} {found : RecordSet} (hf : found.Indexed) :
    (takeAll rs found).collision = none ↔
      ∀ q r, q ∈ found.toList ∨ q ∈ rs → r ∈ found.toList ∨ r ∈ rs → q.name = r.name → q = r := by
  constructor
  · intro hc q r hq hr hn
    rw [← mem_takeAll hf hc] at hq hr
    exact (indexed_takeAll hf).eq_of_name_eq hq hr hn
  · intro h
    induction rs generalizing found with
    | nil => rfl
    | cons r rest ih =>
      rw [takeAll]
      rcases found.insert_cases r with hr | hr | ⟨q, hq, hn, hne⟩
      · rw [take_of_mem hf hr, andThen_of_none rfl]
        refine ih hf fun p q hp hq => h p q ?_ ?_
        · exact hp.imp_right (List.mem_cons_of_mem _)
        · exact hq.imp_right (List.mem_cons_of_mem _)
      · rw [take_of_new hf hr, andThen_of_none rfl]
        refine ih (hf.push hr) fun p q hp hq => h p q ?_ ?_
        · simpa [or_assoc] using hp
        · simpa [or_assoc] using hq
      · exact absurd (h q r (.inl hq) (.inr (by simp)) hn) hne

end Walk

end ServiceSchema
