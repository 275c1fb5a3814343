/-
Taking apart what has been put together: a text at the first of some signs (`cut_at_sign`), at the
first or the last of a character (`cut_first`, `cut_last`), and a list of blocks where they end
(`PrefixFree.flatMap_inj`).
-/
import Mathlib.Data.List.Basic
import Std.Data.String.ToNat

namespace ServiceSchema.Text

/-! ## Texts -/

/-- None of some characters is in a text. -/
def Lacks (cs : List Char) (s : String) : Prop := ∀ c ∈ s.toList, c ∉ cs

instance (cs : List Char) (s : String) : Decidable (Lacks cs s) :=
  List.decidableBAll _ _

namespace Lacks

variable {cs cs' : List Char} {s t : String}

theorem not_mem (h : Lacks cs s) {c : Char} (hc : c ∈ cs) : c ∉ s.toList :=
  fun hm => h c hm hc

theorem mono (h : Lacks cs s) (hsub : cs' ⊆ cs) : Lacks cs' s :=
  fun c hc hm => h c hc (hsub hm)

theorem append_iff : Lacks cs (s ++ t) ↔ Lacks cs s ∧ Lacks cs t := by
  simp [Lacks, or_imp, forall_and]

end Lacks

/-- A text without signs in it, and what comes after it from a sign on, can be told from the two
together. -/
theorem cut_at_sign {signs a b s t : List Char} (ha : ∀ c ∈ a, c ∉ signs) (hb : ∀ c ∈ b, c ∉ signs)
    (hs : ∀ c, s.head? = some c → c ∈ signs) (ht : ∀ c, t.head? = some c → c ∈ signs)
    (h : a ++ s = b ++ t) : a = b ∧ s = t := by
  induction a generalizing b with
  | nil =>
    cases b with
    | nil => exact ⟨rfl, h⟩
    | cons d b => exact absurd (hs d (by rw [← List.nil_append s, h]; rfl)) (hb d List.mem_cons_self)
  | cons d a ih =>
    cases b with
    | nil => exact absurd (ht d (by rw [← List.nil_append t, ← h]; rfl)) (ha d List.mem_cons_self)
    | cons e b =>
      obtain ⟨rfl, hrest⟩ := List.cons.inj h
      obtain ⟨rfl, rfl⟩ := ih (fun c hc => ha c (List.mem_cons_of_mem _ hc))
        (fun c hc => hb c (List.mem_cons_of_mem _ hc)) hrest
      exact ⟨rfl, rfl⟩

theorem cut_first {c : Char} {a b s t : List Char} (ha : c ∉ a) (hb : c ∉ b)
    (h : a ++ c :: s = b ++ c :: t) : a = b ∧ s = t := by
  have hlacks : ∀ {l : List Char}, c ∉ l → ∀ d ∈ l, d ∉ [c] :=
    fun hl d hd he => hl (List.mem_singleton.1 he ▸ hd)
  obtain ⟨hab, hst⟩ := cut_at_sign (hlacks ha) (hlacks hb) (by simp) (by simp) h
  exact ⟨hab, (List.cons.inj hst).2⟩

theorem cut_last {c : Char} {a b s t : List Char} (hs : c ∉ s) (ht : c ∉ t)
    (h : a ++ c :: s = b ++ c :: t) : a = b ∧ s = t := by
  have hrev := congrArg List.reverse h
  simp only [List.reverse_append, List.reverse_cons, List.append_assoc, List.singleton_append] at hrev
  obtain ⟨hst, hab⟩ := cut_first (by simpa using hs) (by simpa using ht) hrev
  exact ⟨List.reverse_injective hab, List.reverse_injective hst⟩

/-- Texts with another one between them: after the first one, that one comes before each. -/
theorem toList_intercalate_cons (sep first : String) (more : List String) :
    (sep.intercalate (first :: more)).toList =
      first.toList ++ more.flatMap fun t => sep.toList ++ t.toList := by
  induction more generalizing first with
  | nil => simp
  | cons next more ih =>
    rw [String.intercalate_cons_cons, String.toList_append, ih]
    simp

theorem lacks_toString (n : Nat) {cs : List Char} (h : cs.any Char.isDigit = false) :
    Lacks cs (toString n) := by
  intro c hc hmem
  rw [Nat.toString_eq_ofList_toDigits, String.toList_ofList] at hc
  have hdigit := Nat.isDigit_of_mem_toDigits (by decide) (by decide) hc
  exact Bool.false_ne_true (h.symm.trans (List.any_eq_true.2 ⟨c, hmem, hdigit⟩))

/-- Lines without a line feed in them can be told from the text that they make up. -/
theorem intercalate_inj {xs ys : List String} (hx : ∀ l ∈ xs, Lacks ['\n'] l)
    (hy : ∀ l ∈ ys, Lacks ['\n'] l) (hx' : xs ≠ []) (hy' : ys ≠ [])
    (h : "\n".intercalate xs = "\n".intercalate ys) : xs = ys := by
  have split : ∀ {ls : List String}, (∀ l ∈ ls, Lacks ['\n'] l) → ls ≠ [] →
      ("\n".intercalate ls).toList.splitOn '\n' = ls.map String.toList := by
    intro ls hls hne
    rw [String.toList_intercalate]
    refine List.splitOn_intercalate '\n' (fun l hl => ?_) (by simpa using hne)
    obtain ⟨s, hs, rfl⟩ := List.mem_map.1 hl
    exact (hls s hs).not_mem (by simp)
  have hmap := split hx hx'
  rw [h, split hy hy'] at hmap
  exact List.map_injective_iff.2 (fun _ _ => String.toList_injective) hmap.symm

/-! ## Blocks -/

/-- The blocks of values can be told apart, and from what follows them. -/
def PrefixFree {α β : Type} (P : α → Prop) (block : α → List β) : Prop :=
  ∀ ⦃a b⦄, P a → P b → ∀ ⦃s t⦄, block a ++ s = block b ++ t → a = b ∧ s = t

namespace PrefixFree

variable {α β : Type} {P : α → Prop}

theorem singleton {line : α → β} (h : ∀ a b, P a → P b → line a = line b → a = b) :
    PrefixFree P fun a => [line a] := by
  intro a b ha hb s t heq
  obtain ⟨hline, rfl⟩ := List.cons.inj heq
  exact ⟨h a b ha hb hline, rfl⟩

/-- Blocks one after the other can be told from what follows, if no block begins that. -/
theorem flatMap_inj {block : α → List β} (hfree : PrefixFree P block) {xs ys : List α}
    (hx : ∀ x ∈ xs, P x) (hy : ∀ y ∈ ys, P y) {s t : List β} (hs : ∀ a r, s ≠ block a ++ r)
    (ht : ∀ a r, t ≠ block a ++ r) (h : xs.flatMap block ++ s = ys.flatMap block ++ t) :
    xs = ys ∧ s = t := by
  induction xs generalizing ys with
  | nil =>
    cases ys with
    | nil => exact ⟨rfl, h⟩
    | cons y ys =>
      rw [List.flatMap_cons, List.append_assoc] at h
      exact absurd h (hs y _)
  | cons x xs ih =>
    rw [List.flatMap_cons, List.append_assoc] at h
    cases ys with
    | nil => exact absurd h.symm (ht x _)
    | cons y ys =>
      rw [List.flatMap_cons, List.append_assoc] at h
      obtain ⟨rfl, hrest⟩ := hfree (hx x List.mem_cons_self) (hy y List.mem_cons_self) h
      obtain ⟨rfl, rfl⟩ := ih (fun z hz => hx z (List.mem_cons_of_mem _ hz))
        (fun z hz => hy z (List.mem_cons_of_mem _ hz)) hrest
      exact ⟨rfl, rfl⟩

end PrefixFree

end ServiceSchema.Text
