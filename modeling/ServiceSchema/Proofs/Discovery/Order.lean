/-
The order of the records of a schema. Of the records met in the plain traversal each
stands where its name is met first, and nothing else decides the order. When the walk
fails, it fails at the first record met that differs from an earlier one of its name
(`collectRecords_order`): what the walk leaves out is there already, so it hides neither a
first occurrence nor a clash.
-/
import Mathlib.Data.List.Induction
import Mathlib.Data.List.Pairwise
import ServiceSchema.Proofs.Discovery.Needed

namespace ServiceSchema

/-! ## Lists of records in which a name occurs more than once -/

/-- Records of one name are one record. -/
def Consistent (rs : List Record) : Prop :=
  rs.Pairwise fun q r => q.name = r.name → q = r

instance (rs : List Record) : Decidable (Consistent rs) :=
  inferInstanceAs (Decidable (rs.Pairwise _))

/-- The records of a list without those whose name has occurred earlier in it. -/
def firstOfEachName (rs : List Record) : List Record :=
  rs.eraseDupsBy fun r q => r.name == q.name

/-- The first record of a list that differs from an earlier one of its name. -/
def FirstClash (rs : List Record) (r : Record) : Prop :=
  ∃ before after, rs = before ++ r :: after ∧ Consistent before ∧
    ∃ q ∈ before, q.name = r.name ∧ q ≠ r

theorem consistent_iff {rs : List Record} :
    Consistent rs ↔ ∀ q ∈ rs, ∀ r ∈ rs, q.name = r.name → q = r := by
  have : Std.Symm fun q r : Record => q.name = r.name → q = r := ⟨fun q r h hn => (h hn.symm).symm⟩
  constructor
  · exact fun h q hq r hr => List.Pairwise.forall_of_forall (fun _ _ _ => rfl) h hq hr
  · exact List.pairwise_of_forall_mem_list

theorem firstOfEachName_cons (r : Record) (rs : List Record) :
    firstOfEachName (r :: rs) = r :: firstOfEachName (rs.filter fun q => q.name ≠ r.name) := by
  simp [firstOfEachName, List.eraseDupsBy_cons]

/-- A list is consistent up to its first clash. -/
theorem exists_firstClash {rs : List Record} (h : ¬ Consistent rs) : ∃ r, FirstClash rs r := by
  induction rs using List.reverseRecOn with
  | nil => exact absurd .nil h
  | append_singleton before r ih =>
    by_cases hb : Consistent before
    · refine ⟨r, before, [], rfl, hb, ?_⟩
      by_contra hnone
      simp only [not_exists, not_and, not_not] at hnone
      refine h (List.pairwise_append.2 ⟨hb, List.pairwise_singleton _ _, fun q hq s hs => ?_⟩)
      rw [List.mem_singleton.1 hs]
      exact hnone q hq
    · obtain ⟨s, b, a, rfl, hclash⟩ := ih hb
      exact ⟨s, b, a ++ [r], by simp, hclash⟩

/-! ## Taking in a list, in order -/

namespace Walk

/-- The names that are not taken come in at the end, each with its first record. -/
theorem toList_takeAll {rs : List Record} {found : RecordSet} (hf : found.Indexed)
    (hc : (takeAll rs found).collision = none) :
    (takeAll rs found).found.toList = found.toList ++
      firstOfEachName (rs.filter fun r => ∀ q ∈ found.toList, q.name ≠ r.name) := by
  induction rs generalizing found with
  | nil => simp [takeAll, firstOfEachName, List.eraseDupsBy, List.eraseDupsBy.loop]
  | cons r rest ih =>
    rw [takeAll] at hc ⊢
    rcases found.insert_cases r with hr | hr | ⟨q, hq, hn, hne⟩
    · rw [take_of_mem hf hr, andThen_of_none rfl] at hc ⊢
      have htaken : ¬ ∀ q ∈ found.toList, q.name ≠ r.name := fun h => h r hr rfl
      rw [ih hf hc, List.filter_cons_of_neg (by simpa using htaken)]
    · rw [take_of_new hf hr, andThen_of_none rfl] at hc ⊢
      rw [ih (hf.push hr) hc, List.filter_cons_of_pos (by simpa using hr), firstOfEachName_cons,
        RecordSet.toList_push, List.append_assoc, List.singleton_append, List.filter_filter]
      congr 4
      funext s
      simp [or_imp, forall_and, and_comm, eq_comm]
    · rw [take_of_clash hf hq hn hne, andThen_of_some rfl] at hc
      cases hc

theorem takeAll_empty_collision {rs : List Record} :
    (takeAll rs .empty).collision = none ↔ Consistent rs := by
  rw [takeAll_collision RecordSet.indexed_empty, consistent_iff]
  simp only [RecordSet.toList_empty, List.not_mem_nil, false_or]
  exact ⟨fun h q hq r hr => h q r hq hr, fun h q r hq hr => h q hq r hr⟩

theorem collision_of_firstClash {rs : List Record} {r : Record} (h : FirstClash rs r) :
    (takeAll rs .empty).collision = some ⟨r.name⟩ := by
  obtain ⟨before, after, rfl, hb, q, hq, hn, hne⟩ := h
  have hc := takeAll_empty_collision.2 hb
  have hmem : q ∈ (takeAll before .empty).found.toList :=
    (mem_takeAll RecordSet.indexed_empty hc q).2 (.inr hq)
  rw [takeAll_append, andThen_of_none hc, takeAll,
    take_of_clash (indexed_takeAll RecordSet.indexed_empty) hmem hn hne, andThen_of_some rfl]

theorem result_eq_error {walk : Walk} {e : GenerationError} :
    walk.result = .error e ↔ ∃ c, walk.collision = some c ∧ e = .nameCollision c.name := by
  unfold result
  split <;> simp_all [eq_comm]

end Walk

/-! ## The records of a schema, in order -/

theorem collectRecords_eq_ok {known : WellKnownTypes} {handlers : List Handler}
    {records : List Record} : collectRecords known handlers = .ok records ↔
      Consistent (handlers.flatMap (·.visits known)) ∧
        records = firstOfEachName (handlers.flatMap (·.visits known)) := by
  rw [collectRecords_eq, Walk.result_eq_ok, Walk.takeAll_empty_collision]
  refine and_congr_right fun hc => ?_
  rw [Walk.toList_takeAll RecordSet.indexed_empty (Walk.takeAll_empty_collision.2 hc)]
  simp [eq_comm]

/-- **The order of the records.** A schema has records exactly when those met for its
handlers are consistent; they are then the ones met, each where its name is met first. It
fails exactly when there is a first clash among those met, and by the name of that. -/
theorem collectRecords_order (known : WellKnownTypes) (handlers : List Handler) :
    (∀ records, collectRecords known handlers = .ok records ↔
      Consistent (handlers.flatMap (·.visits known)) ∧
        records = firstOfEachName (handlers.flatMap (·.visits known))) ∧
    ∀ e, collectRecords known handlers = .error e ↔
      ∃ r, FirstClash (handlers.flatMap (·.visits known)) r ∧ e = .nameCollision r.name := by
  refine ⟨fun records => collectRecords_eq_ok, fun e => ?_⟩
  rw [collectRecords_eq, Walk.result_eq_error]
  constructor
  · intro h
    obtain ⟨c, hc, rfl⟩ := h
    have hnot : ¬ Consistent (handlers.flatMap (·.visits known)) := by
      rw [← Walk.takeAll_empty_collision, hc]
      exact nofun
    obtain ⟨r, hr⟩ := exists_firstClash hnot
    have hname := Walk.collision_of_firstClash hr
    rw [hc, Option.some.injEq] at hname
    exact ⟨r, hr, by rw [hname]⟩
  · intro h
    obtain ⟨r, hr, rfl⟩ := h
    exact ⟨_, Walk.collision_of_firstClash hr, rfl⟩

end ServiceSchema
