/-
How a type expression is taken apart: at its outer brackets, and at the commas that
no bracket encloses. A text that gets through the splitter without being cut
(`Passes`) is one whose brackets match and whose commas are all enclosed; such
texts can be put together, enclosed in brackets, and listed with commas in between,
and the splitter gives back what was listed.
-/
import Mathlib.Data.List.TakeWhile
import ServiceSchema.TypeExpr

namespace ServiceSchema.TypeExpr

theorem dropFinal?_eq_some {c : Char} {cs inner : List Char} :
    dropFinal? c cs = some inner ↔ cs = inner ++ [c] := by
  unfold dropFinal?
  constructor
  · intro h
    split at h
    · rename_i hlast
      cases h
      obtain ⟨ys, rfl⟩ := List.getLast?_eq_some_iff.1 hlast
      simp
    · cases h
  · rintro rfl
    simp

/-! ## The outer brackets -/

/-- A text with an angle bracket is cut at the first one and must end with the other. -/
theorem splitArguments_eq_some {expr head args : List Char} :
    splitArguments expr = .ok (some (head, args)) ↔
      ∃ front, '<' ∉ front ∧ expr = front ++ '<' :: (args ++ ['>']) ∧ head = Text.trimmed front := by
  constructor
  · intro h
    unfold splitArguments at h
    split at h
    · split at h <;> simp at h
    · rename_i c rest hdrop
      split at h
      · cases h
      · rename_i inner hinner
        simp only [Except.ok.injEq, Option.some.injEq, Prod.mk.injEq] at h
        obtain ⟨rfl, rfl⟩ := h
        have hc : c = '<' := by
          have := List.head?_dropWhile_not (· != '<') expr
          simpa [hdrop] using this
        refine ⟨expr.takeWhile (· != '<'), fun hm => ?_, ?_, rfl⟩
        · simpa using List.mem_takeWhile_imp hm
        · rw [← dropFinal?_eq_some.1 hinner, ← hc, ← hdrop, hc, List.takeWhile_append_dropWhile]
  · rintro ⟨front, hfront, rfl, rfl⟩
    have hall : ∀ c ∈ front, (c != '<') = true := by
      intro c hc
      simp only [bne_iff_ne, ne_eq]
      rintro rfl
      exact hfront hc
    unfold splitArguments
    rw [List.dropWhile_append_of_pos hall, List.takeWhile_append_of_pos hall]
    simp [dropFinal?_eq_some.2 rfl]

theorem splitArguments_eq_none {expr : List Char} :
    splitArguments expr = .ok none ↔ '<' ∉ expr ∧ '>' ∉ expr := by
  unfold splitArguments
  split
  · rename_i hdrop
    have hopen : '<' ∉ expr := fun hm => by simpa using List.dropWhile_eq_nil_iff.1 hdrop _ hm
    simp [hopen]
  · rename_i c rest hdrop
    have hopen : '<' ∈ expr := by
      have hc := List.head?_dropWhile_not (· != '<') expr
      have hm : c ∈ expr := (List.dropWhile_sublist (· != '<')).subset (by rw [hdrop]; simp)
      simp only [hdrop, List.head?_cons, bne_eq_false_iff_eq] at hc
      exact hc ▸ hm
    split <;> simp [hopen]

/-! ## The commas -/

/-- What the splitter does at a character, when it has an answer. -/
theorem splitTopLevel?_cons {depth : Nat} {c : Char} {rest : List Char}
    {pieces : List (List Char)} (h : splitTopLevel? depth (c :: rest) = some pieces) :
    ∃ below ps, splitTopLevel? below rest = some ps ∧
      ((opens c = true ∧ below = depth + 1 ∧ pieces = prepend c ps) ∨
        (closes c = true ∧ depth = below + 1 ∧ pieces = prepend c ps) ∨
        (c = ',' ∧ depth = 0 ∧ below = 0 ∧ pieces = [] :: ps) ∨
        (opens c = false ∧ closes c = false ∧ ¬ (c = ',' ∧ depth = 0) ∧ below = depth ∧
          pieces = prepend c ps)) := by
  rw [splitTopLevel?] at h
  split at h
  · rename_i ho
    obtain ⟨ps, hps, rfl⟩ := Option.map_eq_some_iff.1 h
    exact ⟨depth + 1, ps, hps, .inl ⟨ho, rfl, rfl⟩⟩
  · rename_i ho
    split at h
    · rename_i hc
      split at h
      · cases h
      · rename_i hd
        obtain ⟨ps, hps, rfl⟩ := Option.map_eq_some_iff.1 h
        exact ⟨depth - 1, ps, hps, .inr (.inl ⟨hc, by omega, rfl⟩)⟩
    · rename_i hc
      split at h
      · rename_i hcomma
        obtain ⟨ps, hps, rfl⟩ := Option.map_eq_some_iff.1 h
        exact ⟨0, ps, hps, .inr (.inr (.inl ⟨hcomma.1, hcomma.2, rfl, rfl⟩))⟩
      · rename_i hcomma
        obtain ⟨ps, hps, rfl⟩ := Option.map_eq_some_iff.1 h
        exact ⟨depth, ps, hps, .inr (.inr (.inr ⟨by simpa using ho, by simpa using hc, hcomma, rfl, rfl⟩))⟩

theorem splitTopLevel?_ne_nil {depth : Nat} {cs : List Char} {pieces : List (List Char)}
    (h : splitTopLevel? depth cs = some pieces) : pieces ≠ [] := by
  cases cs with
  | nil =>
    rw [splitTopLevel?] at h
    split at h <;> cases h
    simp
  | cons c rest =>
    have hp : ∀ ps, prepend c ps ≠ [] := fun ps => by cases ps <;> simp [prepend]
    obtain ⟨-, ps, -, ⟨-, -, rfl⟩ | ⟨-, -, rfl⟩ | ⟨-, -, -, rfl⟩ | ⟨-, -, -, -, rfl⟩⟩ :=
      splitTopLevel?_cons h
    · exact hp ps
    · exact hp ps
    · simp
    · exact hp ps

theorem intercalate_prepend (c : Char) {pieces : List (List Char)} (h : pieces ≠ []) :
    [','].intercalate (prepend c pieces) = c :: [','].intercalate pieces := by
  cases pieces with
  | nil => exact absurd rfl h
  | cons piece more => rw [prepend, List.intercalate_cons_cons_left]

/-- The pieces, listed with commas in between, are the text. -/
theorem intercalate_splitTopLevel? {depth : Nat} {cs : List Char} {pieces : List (List Char)}
    (h : splitTopLevel? depth cs = some pieces) : [','].intercalate pieces = cs := by
  induction cs generalizing depth pieces with
  | nil =>
    rw [splitTopLevel?] at h
    split at h <;> cases h
    rfl
  | cons c rest ih =>
    obtain ⟨below, ps, hps, hcase⟩ := splitTopLevel?_cons h
    have hne := splitTopLevel?_ne_nil hps
    have hprepend : [','].intercalate (prepend c ps) = c :: rest := by
      rw [intercalate_prepend c hne, ih hps]
    obtain ⟨-, -, rfl⟩ | ⟨-, -, rfl⟩ | ⟨rfl, -, -, rfl⟩ | ⟨-, -, -, -, rfl⟩ := hcase
    · exact hprepend
    · exact hprepend
    · rw [List.intercalate_cons_of_ne_nil hne, ih hps]
      rfl
    · exact hprepend

/-! ## Texts that are not cut -/

/-- Where at least so many brackets are open, the splitter takes the text in without
cutting it, and goes on after it as if it had not been there. -/
def Passes (least : Nat) (cs : List Char) : Prop :=
  ∀ depth, least ≤ depth → ∀ rest,
    splitTopLevel? depth (cs ++ rest) = (splitTopLevel? depth rest).map fun ps => cs.foldr prepend ps

theorem Passes.mono {m n : Nat} {cs : List Char} (h : Passes m cs) (hmn : m ≤ n) : Passes n cs :=
  fun depth hd rest => h depth (Nat.le_trans hmn hd) rest

theorem passes_nil {least : Nat} : Passes least [] := by
  intro depth _ rest
  simp

theorem Passes.append {least : Nat} {cs ds : List Char} (hc : Passes least cs)
    (hd : Passes least ds) : Passes least (cs ++ ds) := by
  intro depth hdepth rest
  rw [List.append_assoc, hc depth hdepth, hd depth hdepth, Option.map_map]
  simp [Function.comp_def]

/-- A character that is no bracket and no comma. -/
def Plain (c : Char) : Prop := opens c = false ∧ closes c = false ∧ c ≠ ','

theorem Passes.cons {least : Nat} {c : Char} {cs : List Char} (ho : opens c = false)
    (hclose : closes c = false) (hcomma : c = ',' → 0 < least) (h : Passes least cs) :
    Passes least (c :: cs) := by
  intro depth hd rest
  have hne : ¬ (c = ',' ∧ depth = 0) := by
    intro h
    obtain ⟨hc, hz⟩ := h
    have := hcomma hc
    omega
  rw [List.cons_append, splitTopLevel?, if_neg (by simp [ho]), if_neg (by simp [hclose]), if_neg hne,
    h depth hd, Option.map_map]
  rfl

theorem passes_of_plain {least : Nat} {cs : List Char} (h : ∀ c ∈ cs, Plain c) : Passes least cs := by
  induction cs with
  | nil => exact passes_nil
  | cons c rest ih =>
    obtain ⟨ho, hc, hcomma⟩ := h c (by simp)
    exact (ih fun d hd => h d (List.mem_cons_of_mem _ hd)).cons ho hc fun he => absurd he hcomma

/-- Brackets protect what is between them. -/
theorem Passes.enclose {least : Nat} {a z : Char} {cs : List Char} (ha : opens a = true)
    (hz : closes z = true) (h : Passes 1 cs) : Passes least (a :: (cs ++ [z])) := by
  intro depth _ rest
  have hzo : opens z = false := by
    simp only [closes, Bool.or_eq_true, beq_iff_eq] at hz
    rcases hz with rfl | rfl <;> rfl
  rw [List.cons_append, List.append_assoc, splitTopLevel?, if_pos ha, h (depth + 1) (by omega),
    List.singleton_append, splitTopLevel?, if_neg (by simp [hzo]), if_pos hz, if_neg (by omega)]
  simp [Function.comp_def]

theorem foldr_prepend (cs piece : List Char) (more : List (List Char)) :
    cs.foldr prepend (piece :: more) = (cs ++ piece) :: more := by
  induction cs with
  | nil => rfl
  | cons c rest ih => rw [List.foldr_cons, ih, prepend, List.cons_append]

/-- One text that is not cut is one piece. -/
theorem Passes.split_one {cs : List Char} (h : Passes 0 cs) : splitTopLevel? 0 cs = some [cs] := by
  have := h 0 (Nat.le_refl 0) []
  simpa [splitTopLevel?, foldr_prepend] using this

/-- Two such texts, with a comma in between, are two pieces. -/
theorem Passes.split_two {cs ds : List Char} (hc : Passes 0 cs) (hd : Passes 0 ds) :
    splitTopLevel? 0 (cs ++ ',' :: ds) = some [cs, ds] := by
  have hcomma : splitTopLevel? 0 (',' :: ds) = some [[], ds] := by
    simp [splitTopLevel?, opens, closes, hd.split_one]
  rw [hc 0 (Nat.le_refl 0), hcomma, Option.map_some, foldr_prepend, List.append_nil]

end ServiceSchema.TypeExpr
