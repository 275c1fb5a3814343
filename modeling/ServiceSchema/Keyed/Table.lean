/-
Tables keyed by text. The entries stand in strictly increasing order of their
keys, which is the order of code points, so two tables with the same entries are
the same table.
-/
namespace ServiceSchema

namespace Keyed

/-- Puts an entry in its place in a list sorted by key; an entry with the same key
is replaced. -/
def insert {α : Type} (key : String) (value : α) : List (String × α) → List (String × α)
  | [] => [(key, value)]
  | (k, v) :: rest =>
    if key < k then (key, value) :: (k, v) :: rest
    else if key = k then (key, value) :: rest
    else (k, v) :: insert key value rest

/-- Puts an entry in its place in a list sorted by key, unless the key is there. -/
def insertNew {α : Type} (key : String) (value : α) : List (String × α) → List (String × α)
  | [] => [(key, value)]
  | (k, v) :: rest =>
    if key < k then (key, value) :: (k, v) :: rest
    else if key = k then (k, v) :: rest
    else (k, v) :: insertNew key value rest

/-- The keys increase from entry to entry. -/
def Sorted {α : Type} (entries : List (String × α)) : Prop :=
  entries.Pairwise (fun a b => a.1 < b.1)

theorem mem_insert {α : Type} {key : String} {value : α} {entries : List (String × α)}
    {e : String × α} (h : e ∈ insert key value entries) : e = (key, value) ∨ e ∈ entries := by
  induction entries with
  | nil => simpa [insert] using h
  | cons p rest ih =>
    obtain ⟨k, v⟩ := p
    simp only [insert] at h
    split at h
    · simpa using h
    · split at h
      · simp only [List.mem_cons] at h ⊢
        exact h.imp_right Or.inr
      · simp only [List.mem_cons] at h ⊢
        rcases h with h | h
        · exact .inr (.inl h)
        · exact (ih h).imp_right Or.inr

theorem sorted_insert {α : Type} {key : String} {value : α} {entries : List (String × α)}
    (h : Sorted entries) : Sorted (insert key value entries) := by
  induction entries with
  | nil => simp [insert, Sorted]
  | cons p rest ih =>
    obtain ⟨k, v⟩ := p
    obtain ⟨hk, hr⟩ := List.pairwise_cons.1 h
    simp only [insert]
    split
    · rename_i hlt
      refine List.pairwise_cons.2 ⟨fun e he => ?_, h⟩
      rcases List.mem_cons.1 he with rfl | he
      · exact hlt
      · exact String.lt_trans hlt (hk e he)
    · rename_i hlt
      split
      · rename_i heq
        subst heq
        exact List.pairwise_cons.2 ⟨hk, hr⟩
      · rename_i hne
        refine List.pairwise_cons.2 ⟨fun e he => ?_, ih hr⟩
        rcases mem_insert he with rfl | he
        · exact Decidable.byContradiction fun h' =>
            hne (String.le_antisymm (String.not_lt.1 h') (String.not_lt.1 hlt))
        · exact hk e he

end Keyed

/-- A table keyed by text. -/
structure Table (α : Type) where
  entries : List (String × α)
  sorted : Keyed.Sorted entries

namespace Table

variable {α : Type}

def empty : Table α := ⟨[], List.Pairwise.nil⟩

def get? (t : Table α) (key : String) : Option α :=
  t.entries.lookup key

def contains (t : Table α) (key : String) : Bool :=
  (t.get? key).isSome

def insert (t : Table α) (key : String) (value : α) : Table α :=
  ⟨Keyed.insert key value t.entries, Keyed.sorted_insert t.sorted⟩

/-- Adds entries one after the other; a later one replaces an earlier one. -/
def extend (t : Table α) (entries : List (String × α)) : Table α :=
  entries.foldl (fun t (key, value) => t.insert key value) t

def ofList (entries : List (String × α)) : Table α :=
  empty.extend entries

def keys (t : Table α) : List String :=
  t.entries.map (·.1)

instance [DecidableEq α] : DecidableEq (Table α) := fun a b =>
  match decEq a.entries b.entries with
  | isTrue h => isTrue (by cases a; cases b; simp_all)
  | isFalse h => isFalse (fun he => h (by rw [he]))

end Table

end ServiceSchema
