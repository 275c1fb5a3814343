/-
What a table holds, told by the entries that have been put in. The keys are those put in,
whatever was there (`mem_keys_ofList`). Entries with different keys make one table in whatever
order they come (`ofList_eq_of_perm`): it has just these entries, and their order in it is that of
their keys.
-/
import Mathlib.Data.List.Basic
import Mathlib.Data.List.Nodup
import ServiceSchema.Keyed.Table

namespace ServiceSchema

namespace Keyed

variable {α : Type} {key : String} {value : α} {entries : List (String × α)}

theorem mem_keys_insert {k : String} :
    k ∈ (insert key value entries).map (·.1) ↔ k = key ∨ k ∈ entries.map (·.1) := by
  induction entries with
  | nil => simp [insert]
  | cons e rest ih =>
    obtain ⟨k', v⟩ := e
    rw [insert]
    split
    · simp
    · split
      · rename_i heq
        simp [heq]
      · simp only [List.map_cons, List.mem_cons, ih]
        tauto

/-- A new entry stands among the others. -/
theorem insert_perm (h : key ∉ entries.map (·.1)) :
    (insert key value entries).Perm ((key, value) :: entries) := by
  induction entries with
  | nil => rw [insert]
  | cons e rest ih =>
    obtain ⟨k, v⟩ := e
    simp only [List.map_cons, List.mem_cons, not_or] at h
    rw [insert]
    split
    · rfl
    · rw [if_neg h.1]
      exact ((ih h.2).cons _).trans (List.Perm.swap _ _ _)

theorem mem_insertNew {e : String × α} (h : e ∈ insertNew key value entries) :
    e = (key, value) ∨ e ∈ entries := by
  induction entries with
  | nil => exact .inl (List.mem_singleton.1 h)
  | cons p rest ih =>
    obtain ⟨k, v⟩ := p
    rw [insertNew] at h
    split at h
    · exact List.mem_cons.1 h
    split at h
    · exact .inr h
    · rcases List.mem_cons.1 h with rfl | h
      · exact .inr List.mem_cons_self
      · exact (ih h).imp_right (List.mem_cons_of_mem _)

theorem insertNew_of_not_mem (h : key ∉ entries.map (·.1)) :
    insertNew key value entries = insert key value entries := by
  induction entries with
  | nil => rfl
  | cons e rest ih =>
    obtain ⟨k, v⟩ := e
    simp only [List.map_cons, List.mem_cons, not_or] at h
    rw [insertNew, insert, if_neg h.1, if_neg h.1, ih h.2]

theorem Sorted.nodup_keys (h : Sorted entries) : (entries.map (·.1)).Nodup :=
  List.pairwise_map.2 (h.imp fun {a b} hlt (heq : a.1 = b.1) => String.lt_irrefl b.1 (heq ▸ hlt))

end Keyed

namespace Table

variable {α : Type}

theorem ext_entries {t u : Table α} (h : t.entries = u.entries) : t = u := by
  cases t
  cases u
  cases h
  rfl

/-- The keys of a table stand in strictly increasing order. -/
theorem keys_increasing (t : Table α) : t.keys.Pairwise (· < ·) :=
  List.pairwise_map.2 t.sorted

/-- Texts in strictly increasing order are told by which they are. -/
theorem eq_of_increasing {xs ys : List String} (hxs : xs.Pairwise (· < ·))
    (hys : ys.Pairwise (· < ·)) (h : ∀ x, x ∈ xs ↔ x ∈ ys) : xs = ys := by
  have ne_of_lt : ∀ {x y : String}, x < y → x ≠ y := fun hlt heq => String.lt_irrefl _ (heq ▸ hlt)
  have hperm : xs.Perm ys :=
    (List.perm_ext_iff_of_nodup (hxs.imp ne_of_lt) (hys.imp ne_of_lt)).2 h
  exact hperm.eq_of_pairwise (fun x y _ _ hxy hyx => absurd hyx (String.lt_asymm hxy)) hxs hys

theorem mem_of_get? {t : Table α} {key : String} {value : α} (h : t.get? key = some value) :
    (key, value) ∈ t.entries := by
  obtain ⟨before, after, heq, -⟩ := List.lookup_eq_some_iff.1 h
  rw [heq]
  exact List.mem_append_right _ List.mem_cons_self

theorem contains_iff_mem_keys {t : Table α} {key : String} :
    t.contains key = true ↔ key ∈ t.keys := by
  rw [contains, get?, List.lookup_isSome_iff, keys, List.mem_map]
  simp only [beq_iff_eq, eq_comm (a := key)]

/-- An extended table has entries from these two sources only. -/
theorem mem_of_mem_extend {t : Table α} {entries : List (String × α)} {e : String × α}
    (h : e ∈ (t.extend entries).entries) : e ∈ entries ∨ e ∈ t.entries := by
  induction entries generalizing t with
  | nil => exact .inr h
  | cons entry rest ih =>
    rcases ih h with h | h
    · exact .inl (List.mem_cons_of_mem _ h)
    · rcases Keyed.mem_insert h with rfl | h
      · exact .inl List.mem_cons_self
      · exact .inr h

theorem mem_keys_extend {t : Table α} {entries : List (String × α)} {k : String} :
    k ∈ (t.extend entries).keys ↔ k ∈ entries.map (·.1) ∨ k ∈ t.keys := by
  induction entries generalizing t with
  | nil => simp [extend]
  | cons e rest ih =>
    have hinsert : k ∈ (t.insert e.1 e.2).keys ↔ k = e.1 ∨ k ∈ t.keys := Keyed.mem_keys_insert
    rw [extend, List.foldl_cons, ← extend, ih, hinsert, List.map_cons, List.mem_cons]
    tauto

theorem mem_keys_ofList {entries : List (String × α)} {k : String} :
    k ∈ (ofList entries).keys ↔ k ∈ entries.map (·.1) := by
  rw [ofList, mem_keys_extend]
  simp [empty, keys]

/-- Entries with new and different keys stand among those that are there. -/
theorem entries_extend_perm {t : Table α} {entries : List (String × α)}
    (h : (entries.map (·.1)).Nodup) (hnew : ∀ k ∈ entries.map (·.1), k ∉ t.keys) :
    (t.extend entries).entries.Perm (entries ++ t.entries) := by
  induction entries generalizing t with
  | nil => exact .refl _
  | cons e rest ih =>
    rw [List.map_cons, List.nodup_cons] at h
    rw [extend, List.foldl_cons, ← extend]
    have hrest : ∀ k ∈ rest.map (·.1), k ∉ (t.insert e.1 e.2).keys := by
      intro k hk hmem
      rcases Keyed.mem_keys_insert.1 hmem with rfl | hmem
      · exact h.1 hk
      · exact hnew k (List.mem_cons_of_mem _ hk) hmem
    have hhead : (t.insert e.1 e.2).entries.Perm (e :: t.entries) :=
      Keyed.insert_perm (hnew e.1 List.mem_cons_self)
    exact ((ih h.2 hrest).trans (hhead.append_left rest)).trans List.perm_middle

/-- The entries of a table make it again, in any order. -/
theorem ofList_eq_of_perm {t : Table α} {entries : List (String × α)}
    (h : entries.Perm t.entries) : ofList entries = t := by
  have hnodup : (entries.map (·.1)).Nodup := (h.map _).nodup_iff.2 t.sorted.nodup_keys
  have hperm : (ofList entries).entries.Perm t.entries := by
    have hall := entries_extend_perm (t := empty) hnodup (by simp [empty, keys])
    rw [show (empty : Table α).entries = [] from rfl, List.append_nil] at hall
    exact hall.trans h
  refine ext_entries (hperm.eq_of_pairwise (fun a b _ _ hab hba => ?_) (ofList entries).sorted t.sorted)
  exact absurd hba (String.lt_asymm hab)

end Table

end ServiceSchema
