/-
The words of a name, and the two spellings built from them (`spellings`). Both spellings are stable:
spelling again what has been spelled changes nothing. The one in snake case is made of words in
lower case with single underscores between them, or is empty, and both have the same letters and
digits in them, those of the name.

Two facts about words carry this. A separator takes the words before it and behind it apart
(`words_append_separator`). Within a run of letters and digits nothing is lost, and every word but
the first starts with a capital (`exists_runWords`). So the words of a name in snake case are those
of the name, in lower case (`words_snakeCase`). A name in camel case is one run, which may well be
cut in other places than the name was: `a b` becomes `AB`, which is one word. But wherever it is cut,
there is a capital already, so nothing is left to capitalise.

The lemmas on the case of ASCII letters are in Batteries, which no part of Mathlib brings in but
the whole of it.
-/
import Mathlib
import ServiceSchema.Text.LowerCase
import ServiceSchema.Text.Words

namespace ServiceSchema.Text

/-! ## Pieces between separators -/

theorem splitBy_eq_splitOnP (sep : Char → Bool) (cs : List Char) :
    splitBy sep cs = cs.splitOnP sep := by
  induction cs with
  | nil => exact List.splitOnP_nil.symm
  | cons c rest ih =>
    obtain ⟨piece, more, hpieces⟩ := List.exists_cons_of_ne_nil (List.splitOnP_ne_nil sep rest)
    rw [splitBy, ih, List.splitOnP_cons_eq_if_modifyHead, hpieces, List.modifyHead_cons]

theorem flatten_splitBy (sep : Char → Bool) (cs : List Char) :
    (splitBy sep cs).flatten = cs.filter fun c => !sep c := by
  induction cs with
  | nil => rfl
  | cons c rest ih =>
    rw [splitBy_eq_splitOnP] at ih ⊢
    rw [List.splitOnP_cons_eq_if_modifyHead]
    split
    · rename_i hsep
      rw [List.flatten_cons, ih, List.filter_cons_of_neg (by simp [hsep]), List.nil_append]
    · rename_i hsep
      obtain ⟨piece, more, hpieces⟩ := List.exists_cons_of_ne_nil (List.splitOnP_ne_nil sep rest)
      rw [hpieces, List.flatten_cons] at ih
      rw [hpieces, List.modifyHead_cons, List.flatten_cons, List.cons_append, ih,
        List.filter_cons_of_pos (by simpa using hsep)]

/-! ## Runs of letters and digits -/

/-- The first piece of what follows a character in its run belongs to the word of that character.
The others are words of their own. -/
theorem exists_cutAfter (prev : Char) (cs : List Char) :
    ∃ piece more, cutAfter prev cs = piece :: more ∧ piece ++ more.flatten = cs ∧
      ∀ w ∈ more, ∃ c tail, w = c :: tail ∧ c.isUpper = true := by
  induction cs generalizing prev with
  | nil => exact ⟨[], [], rfl, rfl, by simp⟩
  | cons c rest ih =>
    obtain ⟨piece, more, hcut, hflatten, hupper⟩ := ih c
    rw [cutAfter, hcut]
    by_cases hstarts : startsWord prev c rest = true
    · have hc : c.isUpper = true := (Bool.and_eq_true_iff.1 hstarts).1
      refine ⟨[], (c :: piece) :: more, if_pos hstarts, by simp [hflatten], ?_⟩
      exact List.forall_mem_cons.2 ⟨⟨c, piece, rfl, hc⟩, hupper⟩
    · exact ⟨c :: piece, more, if_neg hstarts, by simp [hflatten], hupper⟩

theorem exists_runWords (c : Char) (rest : List Char) :
    ∃ piece more, runWords (c :: rest) = (c :: piece) :: more ∧ piece ++ more.flatten = rest ∧
      ∀ w ∈ more, ∃ d tail, w = d :: tail ∧ d.isUpper = true := by
  obtain ⟨piece, more, hcut, hflatten, hupper⟩ := exists_cutAfter c rest
  exact ⟨piece, more, by rw [runWords, hcut], hflatten, hupper⟩

theorem flatten_runWords (run : List Char) : (runWords run).flatten = run := by
  cases run with
  | nil => rfl
  | cons c rest =>
    obtain ⟨piece, more, hwords, hflatten, -⟩ := exists_runWords c rest
    rw [hwords, List.flatten_cons, List.cons_append, hflatten]

theorem ne_nil_of_mem_runWords {run w : List Char} (h : w ∈ runWords run) : w ≠ [] := by
  cases run with
  | nil => cases h
  | cons c rest =>
    obtain ⟨piece, more, hwords, -, hupper⟩ := exists_runWords c rest
    rw [hwords] at h
    rcases List.mem_cons.1 h with rfl | h
    · exact List.cons_ne_nil _ _
    · obtain ⟨d, tail, rfl, -⟩ := hupper w h
      exact List.cons_ne_nil _ _

/-- A run without capitals is one word. -/
theorem runWords_of_not_isUpper {run : List Char} (hne : run ≠ [])
    (h : ∀ c ∈ run, c.isUpper = false) : runWords run = [run] := by
  obtain ⟨c, rest, rfl⟩ := List.exists_cons_of_ne_nil hne
  obtain ⟨piece, more, hwords, hflatten, hupper⟩ := exists_runWords c rest
  cases more with
  | nil => rw [hwords, ← hflatten, List.flatten_nil, List.append_nil]
  | cons w more =>
    obtain ⟨d, tail, rfl, hd⟩ := hupper w List.mem_cons_self
    have hmem : d ∈ rest := by
      rw [← hflatten]
      simp
    exact absurd hd (by simp [h d (List.mem_cons_of_mem _ hmem)])

/-! ## Words -/

theorem words_append_separator {c : Char} (hc : c.isAlphanum = false) (xs ys : List Char) :
    words (xs ++ c :: ys) = words xs ++ words ys := by
  rw [words, words, words, splitBy_eq_splitOnP, splitBy_eq_splitOnP, splitBy_eq_splitOnP,
    List.splitOnP_append_cons xs ys (by simp [hc]), List.flatMap_append]

theorem words_of_isAlphanum {cs : List Char} (h : ∀ c ∈ cs, c.isAlphanum = true) :
    words cs = runWords cs := by
  rw [words, splitBy_eq_splitOnP, List.splitOnP_eq_singleton (by simpa using h),
    List.flatMap_singleton]

/-- Of a name, words leave out the separators and nothing else. -/
theorem flatten_words (cs : List Char) : (words cs).flatten = cs.filter Char.isAlphanum := by
  have hruns : ∀ pieces : List (List Char), (pieces.flatMap runWords).flatten = pieces.flatten := by
    intro pieces
    induction pieces with
    | nil => rfl
    | cons piece more ih =>
      rw [List.flatMap_cons, List.flatten_append, ih, flatten_runWords, List.flatten_cons]
  rw [words, hruns, flatten_splitBy]
  simp

theorem ne_nil_of_mem_words {cs w : List Char} (h : w ∈ words cs) : w ≠ [] := by
  obtain ⟨run, -, hw⟩ := List.mem_flatMap.1 h
  exact ne_nil_of_mem_runWords hw

theorem isAlphanum_of_mem_words {cs w : List Char} (h : w ∈ words cs) :
    ∀ c ∈ w, c.isAlphanum = true := by
  intro c hc
  have hmem : c ∈ (words cs).flatten := List.mem_flatten_of_mem h hc
  rw [flatten_words] at hmem
  exact (List.mem_filter.1 hmem).2

/-- A name without letters and digits has no words. -/
theorem words_eq_nil_iff {cs : List Char} : words cs = [] ↔ ∀ c ∈ cs, c.isAlphanum = false := by
  calc words cs = []
      ↔ (words cs).flatten = [] := by
        rw [List.flatten_eq_nil_iff, List.eq_nil_iff_forall_not_mem]
        exact forall_congr' fun w =>
          ⟨fun h hw => absurd hw h, fun h hw => ne_nil_of_mem_words hw (h hw)⟩
    _ ↔ ∀ c ∈ cs, c.isAlphanum = false := by simp [flatten_words, List.filter_eq_nil_iff]

theorem words_intercalate (ws : List (List Char)) :
    words (['_'].intercalate ws) = ws.flatMap words := by
  induction ws with
  | nil => rfl
  | cons w rest ih =>
    cases rest with
    | nil => simp
    | cons v more =>
      rw [List.intercalate_cons_cons, List.append_assoc, List.singleton_append,
        words_append_separator (by decide), ih]
      rfl

/-! ## Letters and digits in either case -/

theorem isAlphanum_iff {c : Char} :
    c.isAlphanum = true ↔ c.isUpper = true ∨ c.isLower = true ∨ c.isDigit = true := by
  simp [Char.isAlphanum, Char.isAlpha, or_assoc]

theorem not_isUpper_of_isDigit {c : Char} (h : c.isDigit = true) : c.isUpper = false := by
  simp only [Char.isDigit, Char.isUpper, Bool.and_eq_true, decide_eq_true_eq,
    decide_eq_false_iff_not, UInt32.le_iff_toNat_le, ge_iff_le] at h ⊢
  have h9 : '9'.val.toNat = 57 := rfl
  have hA : 'A'.val.toNat = 65 := rfl
  omega

theorem isLower_or_isDigit_toLower {c : Char} (h : c.isAlphanum = true) :
    c.toLower.isLower = true ∨ c.toLower.isDigit = true := by
  rcases Bool.or_eq_true_iff.1 h with halpha | hdigit
  · exact .inl (by rw [Char.isLower_toLower_eq_isAlpha, halpha])
  · rw [Char.toLower_eq_of_not_isUpper (by simp [not_isUpper_of_isDigit hdigit])]
    exact .inr hdigit

theorem isAlphanum_toUpper {c : Char} (h : c.isAlphanum = true) : c.toUpper.isAlphanum = true := by
  by_cases hlower : c.isLower = true
  · have halpha : c.toUpper.isAlpha = true := by
      rw [Char.isAlpha_toUpper_eq_isAlpha, Char.isAlpha, hlower, Bool.or_true]
    exact Bool.or_eq_true_iff.2 (.inl halpha)
  · rwa [Char.toUpper_eq_of_not_isLower hlower]

/-! ## Snake case -/

/-- A word of letters in lower case and digits. -/
structure LowerWord (w : List Char) : Prop where
  ne_nil : w ≠ []
  chars : ∀ c ∈ w, c.isLower = true ∨ c.isDigit = true

/-- Words in lower case with single underscores between them; the empty text has none. -/
def SnakeCased (s : String) : Prop :=
  ∃ ws, (∀ w ∈ ws, LowerWord w) ∧ s.toList = ['_'].intercalate ws

namespace LowerWord

variable {w : List Char}

theorem not_isUpper (h : LowerWord w) : ∀ c ∈ w, c.isUpper = false := by
  intro c hc
  rcases h.chars c hc with hlower | hdigit
  · exact Bool.eq_false_iff.2 (Char.not_isUpper_of_isLower hlower)
  · exact not_isUpper_of_isDigit hdigit

theorem isAlphanum (h : LowerWord w) : ∀ c ∈ w, c.isAlphanum = true := fun c hc =>
  isAlphanum_iff.2 (.inr (h.chars c hc))

theorem words_eq (h : LowerWord w) : words w = [w] := by
  rw [words_of_isAlphanum h.isAlphanum, runWords_of_not_isUpper h.ne_nil h.not_isUpper]

theorem map_toLower (h : LowerWord w) : w.map Char.toLower = w := by
  have hchars : ∀ c ∈ w, c.toLower = id c := fun c hc =>
    Char.toLower_eq_of_not_isUpper (by simp [h.not_isUpper c hc])
  rw [List.map_congr_left hchars, List.map_id]

theorem filter_eq (h : LowerWord w) : w.filter (· != '_') = w := by
  refine List.filter_eq_self.2 fun c hc => bne_iff_ne.2 ?_
  rintro rfl
  exact absurd (h.isAlphanum _ hc) (by decide)

end LowerWord

/-- The words of a name in lower case. -/
def lowerWords (cs : List Char) : List (List Char) :=
  (words cs).map (·.map Char.toLower)

theorem lowerWord_of_mem {cs w : List Char} (h : w ∈ lowerWords cs) : LowerWord w := by
  obtain ⟨v, hv, rfl⟩ := List.mem_map.1 h
  refine ⟨by simpa using ne_nil_of_mem_words hv, fun c hc => ?_⟩
  obtain ⟨d, hd, rfl⟩ := List.mem_map.1 hc
  exact isLower_or_isDigit_toLower (isAlphanum_of_mem_words hv d hd)

theorem flatten_lowerWords (cs : List Char) :
    (lowerWords cs).flatten = (cs.filter Char.isAlphanum).map Char.toLower := by
  rw [lowerWords, ← List.map_flatten, flatten_words]

theorem toList_snakeCase (s : String) :
    (snakeCase s).toList = ['_'].intercalate (lowerWords s.toList) := by
  rw [snakeCase, String.toList_intercalate, List.map_map]
  simp [lowerWords, Function.comp_def]

theorem snakeCased_snakeCase (s : String) : SnakeCased (snakeCase s) :=
  ⟨lowerWords s.toList, fun _ => lowerWord_of_mem, toList_snakeCase s⟩

/-- A name in snake case is cut where it was put together. -/
theorem words_snakeCase (s : String) : words (snakeCase s).toList = lowerWords s.toList := by
  rw [toList_snakeCase, words_intercalate]
  have hwords : ∀ w ∈ lowerWords s.toList, words w = [w] := fun w hw =>
    (lowerWord_of_mem hw).words_eq
  rw [List.flatMap_congr hwords]
  simp

theorem snakeCase_snakeCase (s : String) : snakeCase (snakeCase s) = snakeCase s := by
  have hlower : ∀ w ∈ lowerWords s.toList, w.map Char.toLower = id w := fun w hw =>
    (lowerWord_of_mem hw).map_toLower
  apply String.toList_injective
  rw [toList_snakeCase, lowerWords, words_snakeCase, List.map_congr_left hlower, List.map_id,
    toList_snakeCase]

theorem filter_intercalate {ws : List (List Char)} (h : ∀ w ∈ ws, LowerWord w) :
    (['_'].intercalate ws).filter (· != '_') = ws.flatten := by
  induction ws with
  | nil => rfl
  | cons w rest ih =>
    obtain ⟨hw, hrest⟩ := List.forall_mem_cons.1 h
    cases rest with
    | nil => simp [hw.filter_eq]
    | cons v more =>
      rw [List.intercalate_cons_cons, List.filter_append, List.filter_append, ih hrest,
        hw.filter_eq, List.filter_cons_of_neg (by decide), List.filter_nil, List.append_nil,
        ← List.flatten_cons]

/-- Without its underscores, a name in snake case is its words and nothing else. -/
theorem filter_snakeCase (s : String) :
    (snakeCase s).toList.filter (· != '_') = (lowerWords s.toList).flatten := by
  rw [toList_snakeCase, filter_intercalate fun _ => lowerWord_of_mem]

theorem isAlphanum_of_mem_snakeCase {s : String} {c : Char} (h : c ∈ (snakeCase s).toList)
    (hc : c ≠ '_') : c.isAlphanum = true := by
  have hmem : c ∈ (snakeCase s).toList.filter (· != '_') :=
    List.mem_filter.2 ⟨h, bne_iff_ne.2 hc⟩
  rw [filter_snakeCase] at hmem
  obtain ⟨w, hw, hmem⟩ := List.mem_flatten.1 hmem
  exact (lowerWord_of_mem hw).isAlphanum c hmem

theorem snakeCase_eq_empty_iff {s : String} : snakeCase s = "" ↔ words s.toList = [] := by
  constructor
  · intro h
    have hlower : lowerWords s.toList = [] := by
      rw [← words_snakeCase, h]
      rfl
    exact List.map_eq_nil_iff.1 hlower
  · intro h
    rw [snakeCase, h]
    rfl

/-! ## Camel case -/

theorem toList_camelCase (s : String) :
    (camelCase s).toList = (words s.toList).flatMap capitalised := by
  rw [camelCase, String.toList_ofList]

theorem camelCase_eq_empty_iff {s : String} : camelCase s = "" ↔ words s.toList = [] := by
  rw [← String.toList_eq_nil_iff, toList_camelCase, List.flatMap_eq_nil_iff,
    List.eq_nil_iff_forall_not_mem]
  refine forall_congr' fun w => ⟨fun h hw => ?_, fun h hw => absurd hw h⟩
  obtain ⟨c, tail, rfl⟩ := List.exists_cons_of_ne_nil (ne_nil_of_mem_words hw)
  exact List.cons_ne_nil _ _ (h hw)

theorem isAlphanum_capitalised {w : List Char} (h : ∀ c ∈ w, c.isAlphanum = true) :
    ∀ c ∈ capitalised w, c.isAlphanum = true := by
  cases w with
  | nil => exact h
  | cons c rest =>
    obtain ⟨hc, hrest⟩ := List.forall_mem_cons.1 h
    exact List.forall_mem_cons.2 ⟨isAlphanum_toUpper hc, hrest⟩

theorem isAlphanum_camelCase (s : String) : ∀ c ∈ (camelCase s).toList, c.isAlphanum = true := by
  intro c hc
  rw [toList_camelCase] at hc
  obtain ⟨w, hw, hc⟩ := List.mem_flatMap.1 hc
  exact isAlphanum_capitalised (isAlphanum_of_mem_words hw) c hc

/-- A word that starts with a capital is left as it is. -/
theorem capitalised_of_isUpper {c : Char} {tail : List Char} (hc : c.isUpper = true) :
    capitalised (c :: tail) = c :: tail := by
  rw [capitalised, Char.toUpper_eq_of_not_isLower (Char.not_isLower_of_isUpper hc)]

/-- Wherever a run is cut, capitalising its words can change its first character only. -/
theorem flatMap_capitalised_runWords (run : List Char) :
    (runWords run).flatMap capitalised = capitalised run := by
  cases run with
  | nil => rfl
  | cons c rest =>
    obtain ⟨piece, more, hwords, hflatten, hupper⟩ := exists_runWords c rest
    have hmore : ∀ w ∈ more, capitalised w = id w := by
      intro w hw
      obtain ⟨d, tail, rfl, hd⟩ := hupper w hw
      exact capitalised_of_isUpper hd
    rw [hwords, List.flatMap_cons, List.flatMap_congr hmore, List.flatMap_id, capitalised,
      capitalised, List.cons_append, hflatten]

theorem capitalised_flatMap_capitalised {ws : List (List Char)} (h : ∀ w ∈ ws, w ≠ []) :
    capitalised (ws.flatMap capitalised) = ws.flatMap capitalised := by
  cases ws with
  | nil => rfl
  | cons w rest =>
    obtain ⟨c, tail, rfl⟩ := List.exists_cons_of_ne_nil (h w List.mem_cons_self)
    rw [List.flatMap_cons, capitalised, List.cons_append, capitalised,
      Char.toUpper_toUpper_eq_toUpper]

theorem camelCase_camelCase (s : String) : camelCase (camelCase s) = camelCase s := by
  apply String.toList_injective
  rw [toList_camelCase, words_of_isAlphanum (isAlphanum_camelCase s), flatMap_capitalised_runWords,
    toList_camelCase, capitalised_flatMap_capitalised fun _ => ne_nil_of_mem_words]

/-! ## Both spellings -/

theorem map_toLower_capitalised (w : List Char) :
    (capitalised w).map Char.toLower = w.map Char.toLower := by
  cases w with
  | nil => rfl
  | cons c rest => simp [capitalised]

theorem asciiLower_camelCase (s : String) :
    asciiLower (camelCase s) = String.ofList (lowerWords s.toList).flatten := by
  rw [asciiLower, toList_camelCase, List.map_flatMap, lowerWords, ← List.flatMap_def]
  simp only [map_toLower_capitalised]

/-- Spelling a name again changes nothing, in snake case and in camel case. The first is made of
words in lower case, and both have the same letters and digits in them, those of the name. -/
theorem spellings (s : String) :
    snakeCase (snakeCase s) = snakeCase s ∧ camelCase (camelCase s) = camelCase s ∧
      SnakeCased (snakeCase s) ∧
      String.ofList ((snakeCase s).toList.filter (· != '_')) = asciiLower (camelCase s) ∧
      asciiLower (camelCase s) = asciiLower (String.ofList (s.toList.filter Char.isAlphanum)) := by
  refine ⟨snakeCase_snakeCase s, camelCase_camelCase s, snakeCased_snakeCase s, ?_, ?_⟩
  · rw [filter_snakeCase, asciiLower_camelCase]
  · rw [asciiLower_camelCase, flatten_lowerWords, asciiLower, String.toList_ofList]

example : camelCase "a b" = "AB" ∧ snakeCase "a b" = "a_b" ∧ snakeCase "AB" = "ab" := by
  decide +kernel

end ServiceSchema.Text
