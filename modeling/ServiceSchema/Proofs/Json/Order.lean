/-
JSON values up to the order of entries: two values are the same when the entries of each object
of one are those of the other in some order (`Reordered`). A value is the same as itself, and as
the value with its entries sorted, if no object has a key twice (`reordered_sorted`); of a key that
stands twice, sorting keeps one entry.
-/
import Mathlib.Data.List.Forall2
import ServiceSchema.Json
import ServiceSchema.Proofs.Keyed.Table

namespace ServiceSchema

namespace Json

mutual

/-- The same value, with the entries of its objects in any order. -/
inductive Reordered : Json → Json → Prop
  | null : Reordered .null .null
  | bool (b : Bool) : Reordered (.bool b) (.bool b)
  | integer (n : Int) : Reordered (.integer n) (.integer n)
  | decimal (digits : String) : Reordered (.decimal digits) (.decimal digits)
  | text (s : String) : Reordered (.text s) (.text s)
  | array {items items' : List Json} : ReorderedItems items items' →
      Reordered (.array items) (.array items')
  | object {entries entries' entries'' : List (String × Json)} :
      ReorderedEntries entries entries' → entries''.Perm entries' →
      Reordered (.object entries) (.object entries'')

/-- The same items, each with its entries in any order. -/
inductive ReorderedItems : List Json → List Json → Prop
  | nil : ReorderedItems [] []
  | cons {item item' : Json} {rest rest' : List Json} : Reordered item item' →
      ReorderedItems rest rest' → ReorderedItems (item :: rest) (item' :: rest')

/-- The same entries in the same order, each value with its own entries in any order. -/
inductive ReorderedEntries : List (String × Json) → List (String × Json) → Prop
  | nil : ReorderedEntries [] []
  | cons {key : String} {value value' : Json} {rest rest' : List (String × Json)} :
      Reordered value value' → ReorderedEntries rest rest' →
      ReorderedEntries ((key, value) :: rest) ((key, value') :: rest')

end

mutual

theorem Reordered.refl : ∀ j : Json, j.Reordered j
  | .null => .null
  | .bool b => .bool b
  | .integer n => .integer n
  | .decimal digits => .decimal digits
  | .text s => .text s
  | .array items => .array (ReorderedItems.refl items)
  | .object entries => .object (ReorderedEntries.refl entries) (.refl _)

theorem ReorderedItems.refl : ∀ items : List Json, ReorderedItems items items
  | [] => .nil
  | item :: rest => .cons (Reordered.refl item) (ReorderedItems.refl rest)

theorem ReorderedEntries.refl : ∀ entries : List (String × Json), ReorderedEntries entries entries
  | [] => .nil
  | (_, value) :: rest => .cons (Reordered.refl value) (ReorderedEntries.refl rest)

end

theorem ReorderedEntries.keys_eq : ∀ {entries entries' : List (String × Json)},
    ReorderedEntries entries entries' → entries'.map (·.1) = entries.map (·.1)
  | [], _, h => by
    cases h
    rfl
  | _ :: _, _, h => by
    cases h with
    | cons _ hrest => rw [List.map_cons, List.map_cons, hrest.keys_eq]

theorem ReorderedEntries.append_left : ∀ {first second entries' : List (String × Json)},
    ReorderedEntries (first ++ second) entries' →
      ∃ first' second', entries' = first' ++ second' ∧ ReorderedEntries first first' ∧
        ReorderedEntries second second'
  | [], _, entries', h => ⟨[], entries', rfl, .nil, h⟩
  | _ :: _, _, _, h => by
    cases h with
    | cons hvalue hrest =>
      obtain ⟨first', second', rfl, hfirst, hsecond⟩ := hrest.append_left
      exact ⟨_ :: first', second', rfl, .cons hvalue hfirst, hsecond⟩

/-! ## Sorting the entries -/

mutual

/-- No object in a value has a key twice. -/
def Distinct : Json → Prop
  | .array items => DistinctItems items
  | .object entries => (entries.map (·.1)).Nodup ∧ DistinctEntries entries
  | _ => True

def DistinctItems : List Json → Prop
  | [] => True
  | item :: rest => item.Distinct ∧ DistinctItems rest

def DistinctEntries : List (String × Json) → Prop
  | [] => True
  | (_, value) :: rest => value.Distinct ∧ DistinctEntries rest

end

theorem distinctItems_map {α : Type} {f : α → Json} {xs : List α} (h : ∀ x ∈ xs, (f x).Distinct) :
    DistinctItems (xs.map f) := by
  induction xs with
  | nil => trivial
  | cons x rest ih => exact ⟨h x List.mem_cons_self, ih fun y hy => h y (List.mem_cons_of_mem _ hy)⟩

theorem distinctEntries_map {α : Type} {f : α → String × Json} {xs : List α}
    (h : ∀ x ∈ xs, (f x).2.Distinct) : DistinctEntries (xs.map f) := by
  induction xs with
  | nil => trivial
  | cons x rest ih => exact ⟨h x List.mem_cons_self, ih fun y hy => h y (List.mem_cons_of_mem _ hy)⟩

theorem sortedItems_eq_map (items : List Json) : sortedItems items = items.map sorted := by
  induction items with
  | nil => rfl
  | cons item rest ih => rw [sortedItems, ih, List.map_cons]

/-- Sorting leaves all entries when the keys are different. -/
theorem sortedEntries_perm {entries : List (String × Json)} (h : (entries.map (·.1)).Nodup) :
    (sortedEntries entries).Perm (entries.map fun e => (e.1, e.2.sorted)) := by
  induction entries with
  | nil => exact .refl _
  | cons e rest ih =>
    obtain ⟨key, value⟩ := e
    rw [List.map_cons, List.nodup_cons] at h
    have hrest := ih h.2
    have hkeys : key ∉ (sortedEntries rest).map (·.1) := by
      rw [(hrest.map _).mem_iff]
      simpa [Function.comp_def] using h.1
    rw [sortedEntries, Keyed.insertNew_of_not_mem hkeys]
    exact (Keyed.insert_perm hkeys).trans (hrest.cons _)

mutual

/-- A value is the same as the value with its entries sorted. -/
theorem reordered_sorted : ∀ {j : Json}, j.Distinct → j.Reordered j.sorted
  | .null, _ => .null
  | .bool b, _ => .bool b
  | .integer n, _ => .integer n
  | .decimal digits, _ => .decimal digits
  | .text s, _ => .text s
  | .array _, h => .array (reordered_sortedItems h)
  | .object _, h => .object (reordered_sortedEntries h.2) (sortedEntries_perm h.1)

theorem reordered_sortedItems : ∀ {items : List Json}, DistinctItems items →
    ReorderedItems items (sortedItems items)
  | [], _ => .nil
  | _ :: _, h => .cons (reordered_sorted h.1) (reordered_sortedItems h.2)

theorem reordered_sortedEntries : ∀ {entries : List (String × Json)}, DistinctEntries entries →
    ReorderedEntries entries (entries.map fun e => (e.1, e.2.sorted))
  | [], _ => .nil
  | (_, _) :: _, h => .cons (reordered_sorted h.1) (reordered_sortedEntries h.2)

end

end Json

end ServiceSchema
