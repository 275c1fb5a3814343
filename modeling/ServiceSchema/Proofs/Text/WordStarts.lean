/-
Where the words of a text start (`wordAt_iff`): at the first character of every run of letters and
digits, and inside a run at a capital after a small letter or a digit, or between a capital and a
small letter.

The words of a text are told from left to right, one character at a time (`words_cons`). Where a
word starts, the words before it are those of the text that ends there (`words_append_start`):
looking ahead from before it would meet a capital, which no word starts in front of. Anywhere else
in a run, the character is in one word with the one before it (`exists_word_of_not_start`).
-/
import Mathlib.Data.List.Basic
import ServiceSchema.Proofs.Text.Words

namespace ServiceSchema.Text

variable {p c d : Char} {front rest rest' cs : List Char}

/-! ## Words, one character at a time -/

/-- Of what comes after a character, only a small letter right behind it counts. -/
theorem startsWord_congr
    (h : (rest.head?.map Char.isLower).getD false = (rest'.head?.map Char.isLower).getD false) :
    startsWord p c rest = startsWord p c rest' := by
  rw [startsWord, startsWord, h]

theorem runWords_cons_cons (p c : Char) (rest : List Char) :
    runWords (p :: c :: rest) =
      if startsWord p c rest then [p] :: runWords (c :: rest)
      else (runWords (c :: rest)).modifyHead (p :: ·) := by
  obtain ⟨piece, more, hcut, -⟩ := exists_cutAfter c rest
  by_cases h : startsWord p c rest = true <;> simp [runWords, cutAfter, hcut, h]

/-- The run that a text starts with ends before a separator, which is no small letter. -/
theorem exists_splitBy_alphanum (rest : List Char) :
    ∃ piece more, splitBy (fun c => !c.isAlphanum) rest = piece :: more ∧
      ∀ p c, startsWord p c piece = startsWord p c rest := by
  obtain ⟨piece, more, hsplit⟩ :=
    List.exists_cons_of_ne_nil (List.splitOnP_ne_nil (fun c : Char => !c.isAlphanum) rest)
  refine ⟨piece, more, (splitBy_eq_splitOnP _ _).trans hsplit, fun p c => startsWord_congr ?_⟩
  cases rest with
  | nil =>
    obtain ⟨rfl, -⟩ := List.cons.inj (List.splitOnP_nil.symm.trans hsplit)
    rfl
  | cons n rest =>
    rw [List.splitOnP_cons_eq_if_modifyHead] at hsplit
    by_cases hn : n.isAlphanum = true
    · obtain ⟨first, others, hrest⟩ :=
        List.exists_cons_of_ne_nil (List.splitOnP_ne_nil (fun c : Char => !c.isAlphanum) rest)
      rw [if_neg (by simp [hn]), hrest] at hsplit
      obtain ⟨rfl, -⟩ := List.cons.inj hsplit
      rfl
    · have hlower : n.isLower = false :=
        Bool.eq_false_iff.2 fun h => hn (isAlphanum_iff.2 (.inr (.inl h)))
      rw [if_pos (by simp [hn])] at hsplit
      obtain ⟨rfl, -⟩ := List.cons.inj hsplit
      simp [hlower]

/-- Whether a letter or digit and what comes after it are in one word. -/
def goesOn (p : Char) : List Char → Bool
  | [] => false
  | c :: rest => c.isAlphanum && !startsWord p c rest

theorem words_separator (hc : c.isAlphanum = false) : words (c :: rest) = words rest :=
  words_append_separator hc [] rest

theorem words_cons (hp : p.isAlphanum = true) (rest : List Char) :
    words (p :: rest) =
      if goesOn p rest then (words rest).modifyHead (p :: ·) else [p] :: words rest := by
  have hone : words [p] = [[p]] := words_of_isAlphanum (by simpa using hp)
  cases rest with
  | nil => exact hone
  | cons c rest =>
    by_cases hc : c.isAlphanum = true
    · obtain ⟨piece, more, hsplit, hstarts⟩ := exists_splitBy_alphanum rest
      have hrest : splitBy (fun c => !c.isAlphanum) (c :: rest) = (c :: piece) :: more := by
        simp [splitBy, hsplit, hc]
      have hall : splitBy (fun c => !c.isAlphanum) (p :: c :: rest) = (p :: c :: piece) :: more := by
        simp [splitBy, hsplit, hc, hp]
      obtain ⟨first, others, hrun, -⟩ := exists_runWords c piece
      rw [words, words, hrest, hall, List.flatMap_cons, List.flatMap_cons, runWords_cons_cons,
        hstarts, hrun, goesOn, hc]
      by_cases h : startsWord p c rest = true <;> simp [h]
    · have hc : c.isAlphanum = false := Bool.eq_false_iff.2 hc
      rw [goesOn, hc, words_separator hc, ← List.singleton_append, words_append_separator hc, hone]
      rfl

theorem exists_words_cons (hc : c.isAlphanum = true) (rest : List Char) :
    ∃ tail more, words (c :: rest) = (c :: tail) :: more := by
  rw [words_cons hc]
  split
  · rename_i hon
    cases hwords : words rest with
    | nil =>
      obtain ⟨d, rest, rfl⟩ : ∃ d rest', rest = d :: rest' := by
        cases rest with
        | nil => cases hon
        | cons d rest => exact ⟨d, rest, rfl⟩
      rw [goesOn, Bool.and_eq_true] at hon
      exact absurd hon.1 (by simp [words_eq_nil_iff.1 hwords d List.mem_cons_self])
    | cons w more => exact ⟨w, more, rfl⟩
  · exact ⟨[], words rest, rfl⟩

/-! ## Where a word starts, and where none does -/

theorem goesOn_append_start (hc : c.isUpper = true) (d : Char) (front : List Char) :
    goesOn d (front ++ p :: c :: rest) = goesOn d (front ++ [p]) := by
  have hlower : c.isLower = false := Bool.eq_false_iff.2 (Char.not_isLower_of_isUpper hc)
  cases front with
  | nil => simp [goesOn, startsWord, hlower]
  | cons e front =>
    have hhead : (front ++ p :: c :: rest).head? = (front ++ [p]).head? := by cases front <;> rfl
    have hstarts : startsWord d e (front ++ p :: c :: rest) = startsWord d e (front ++ [p]) :=
      startsWord_congr (by rw [hhead])
    rw [List.cons_append, List.cons_append, goesOn, goesOn, hstarts]

/-- Where a word starts, the words before it are those of the text that ends there. -/
theorem words_append_start (hp : p.isAlphanum = true) (h : startsWord p c rest = true)
    (front : List Char) :
    words (front ++ p :: c :: rest) = words (front ++ [p]) ++ words (c :: rest) := by
  have hupper : c.isUpper = true := (Bool.and_eq_true_iff.1 h).1
  induction front with
  | nil => rw [List.nil_append, List.nil_append, words_cons hp, words_cons hp]; simp [goesOn, h]; rfl
  | cons d front ih =>
    rw [List.cons_append, List.cons_append]
    by_cases hd : d.isAlphanum = true
    · rw [words_cons hd, words_cons hd, goesOn_append_start hupper, ih]
      split
      · cases hwords : words (front ++ [p]) with
        | nil => exact absurd hp (by simp [words_eq_nil_iff.1 hwords p (by simp)])
        | cons w more => rfl
      · rfl
    · have hd : d.isAlphanum = false := Bool.eq_false_iff.2 hd
      rw [words_separator hd, words_separator hd, ih]

/-- Elsewhere in a run, a character is in one word with the one before it. -/
theorem exists_word_of_not_start (hp : p.isAlphanum = true) (hc : c.isAlphanum = true)
    (h : startsWord p c rest = false) (front : List Char) :
    ∃ before u v after, words (front ++ p :: c :: rest) = before ++ (u ++ p :: c :: v) :: after ∧
      before.flatten ++ u = front.filter Char.isAlphanum := by
  induction front with
  | nil =>
    obtain ⟨v, after, hwords⟩ := exists_words_cons hc rest
    refine ⟨[], [], v, after, ?_, rfl⟩
    rw [List.nil_append, words_cons hp, hwords]
    simp [goesOn, hc, h]
  | cons d front ih =>
    obtain ⟨before, u, v, after, hwords, hfront⟩ := ih
    rw [List.cons_append]
    by_cases hd : d.isAlphanum = true
    · rw [words_cons hd, hwords, List.filter_cons_of_pos hd, ← hfront]
      split
      · cases before with
        | nil => exact ⟨[], d :: u, v, after, rfl, rfl⟩
        | cons w before => exact ⟨(d :: w) :: before, u, v, after, rfl, rfl⟩
      · exact ⟨[d] :: before, u, v, after, rfl, rfl⟩
    · have hd : d.isAlphanum = false := Bool.eq_false_iff.2 hd
      rw [words_separator hd, List.filter_cons_of_neg (by simp [hd])]
      exact ⟨before, u, v, after, hwords, hfront⟩

/-! ## Positions -/

def charBefore? (cs : List Char) (i : Nat) : Option Char := (cs.take i).getLast?

/-- A word of the text starts at a position: those before it hold all letters and digits before the
position. -/
def WordAt (cs : List Char) (i : Nat) : Prop :=
  ∃ before w after, words cs = before ++ w :: after ∧
    before.flatten = (cs.take i).filter Char.isAlphanum ∧ w.head? = cs[i]?

/-- The positions at which words are to start. -/
inductive StartsAt (cs : List Char) (i : Nat) : Prop
  | ofRun (c : Char) (hc : cs[i]? = some c) (halnum : c.isAlphanum = true)
    (hfirst : ∀ p, charBefore? cs i = some p → p.isAlphanum = false) : StartsAt cs i
  | afterSmall (p c : Char) (hp : charBefore? cs i = some p) (hc : cs[i]? = some c)
    (hupper : c.isUpper = true) (hsmall : p.isLower = true ∨ p.isDigit = true) : StartsAt cs i
  | beforeSmall (p c n : Char) (hp : charBefore? cs i = some p) (hc : cs[i]? = some c)
    (hn : cs[i + 1]? = some n) (hupper : c.isUpper = true) (hcapital : p.isUpper = true)
    (hsmall : n.isLower = true) : StartsAt cs i

theorem startsAt_iff :
    StartsAt (front ++ c :: rest) front.length ↔
      c.isAlphanum = true ∧
        ∀ p, front.getLast? = some p → p.isAlphanum = true → startsWord p c rest = true := by
  have hbefore : charBefore? (front ++ c :: rest) front.length = front.getLast? := by
    rw [charBefore?, List.take_left]
  have hat : (front ++ c :: rest)[front.length]? = some c := by simp
  have hnext : (front ++ c :: rest)[front.length + 1]? = rest.head? := by
    cases rest <;> simp
  constructor
  · rintro (⟨d, hc, halnum, hfirst⟩ | ⟨p, d, hp, hc, hupper, hsmall⟩ |
      ⟨p, d, n, hp, hc, hn, hupper, hcapital, hsmall⟩)
    · obtain rfl := Option.some.inj (hat.symm.trans hc)
      exact ⟨halnum, fun p hp halnum => absurd halnum (by simp [hfirst p (hbefore.trans hp)])⟩
    · obtain rfl := Option.some.inj (hat.symm.trans hc)
      refine ⟨isAlphanum_iff.2 (.inl hupper), fun q hq _ => ?_⟩
      obtain rfl := Option.some.inj (hq.symm.trans (hbefore.symm.trans hp))
      rcases hsmall with hsmall | hsmall <;> simp [startsWord, hupper, hsmall]
    · obtain rfl := Option.some.inj (hat.symm.trans hc)
      refine ⟨isAlphanum_iff.2 (.inl hupper), fun q hq _ => ?_⟩
      obtain rfl := Option.some.inj (hq.symm.trans (hbefore.symm.trans hp))
      simp [startsWord, hupper, hcapital, hnext.symm.trans hn, hsmall]
  · rintro ⟨halnum, hstarts⟩
    by_cases hfirst : ∀ p, front.getLast? = some p → p.isAlphanum = false
    · exact .ofRun c hat halnum fun p hp => hfirst p (hbefore.symm.trans hp)
    · push Not at hfirst
      obtain ⟨p, hp, halnum⟩ := hfirst
      have h := hstarts p hp (by simpa using halnum)
      simp only [startsWord, Bool.and_eq_true, Bool.or_eq_true] at h
      obtain ⟨hupper, (hsmall | hdigit) | ⟨hcapital, hsmall⟩⟩ := h
      · exact .afterSmall p c (hbefore.trans hp) hat hupper (.inl hsmall)
      · exact .afterSmall p c (hbefore.trans hp) hat hupper (.inr hdigit)
      · obtain ⟨n, hn, hsmall⟩ : ∃ n, rest.head? = some n ∧ n.isLower = true := by
          cases rest with
          | nil => cases hsmall
          | cons n rest => exact ⟨n, rfl, hsmall⟩
        exact .beforeSmall p c n (hbefore.trans hp) hat (hnext.trans hn) hupper hcapital hsmall

/-- One list of words has no two words that overlap: a word that starts in the middle of another. -/
theorem not_mid_word {before after before' after' : List (List Char)} {w u v : List Char}
    (h : before' ++ w :: after' = before ++ (u ++ p :: c :: v) :: after) :
    before'.flatten ≠ before.flatten ++ u ++ [p] := by
  intro hflatten
  have hlength := congrArg List.length hflatten
  rcases List.append_eq_append_iff.1 h with ⟨mid, hbefore, -⟩ | ⟨mid, hbefore, hmid⟩
  · simp [hbefore] at hlength
  · cases mid with
    | nil => simp [hbefore] at hlength
    | cons x mid =>
      obtain ⟨rfl, -⟩ := List.cons.inj hmid
      simp [hbefore] at hlength

theorem wordAt_append_iff :
    WordAt (front ++ c :: rest) front.length ↔ StartsAt (front ++ c :: rest) front.length := by
  have hat : (front ++ c :: rest)[front.length]? = some c := by simp
  rw [startsAt_iff]
  constructor
  · rintro ⟨before, w, after, hwords, hbefore, hhead⟩
    rw [List.take_left] at hbefore
    rw [hat] at hhead
    have hw : w ∈ words (front ++ c :: rest) := by simp [hwords]
    have hc : c.isAlphanum = true := isAlphanum_of_mem_words hw c (List.mem_of_head? hhead)
    refine ⟨hc, fun p hp halnum => ?_⟩
    by_contra hstarts
    obtain ⟨front, rfl⟩ := List.getLast?_eq_some_iff.1 hp
    obtain ⟨before', u, v, after', hmid, hfront⟩ :=
      exists_word_of_not_start halnum hc (Bool.eq_false_iff.2 hstarts) front
    rw [List.append_assoc, List.singleton_append, hmid] at hwords
    refine not_mid_word hwords.symm ?_
    rw [hbefore, List.filter_append, hfront]
    simp [halnum]
  · rintro ⟨hc, hstarts⟩
    obtain ⟨tail, more, hwords⟩ := exists_words_cons hc rest
    have hall : words (front ++ c :: rest) = words front ++ words (c :: rest) := by
      rcases List.eq_nil_or_concat front with rfl | ⟨front, p, rfl⟩
      · rfl
      · by_cases hp : p.isAlphanum = true
        · have h := hstarts p (by simp) hp
          simpa using words_append_start hp h front
        · have hp : p.isAlphanum = false := Bool.eq_false_iff.2 hp
          rw [List.concat_eq_append, List.append_assoc, List.singleton_append,
            words_append_separator hp, words_append_separator hp]
          simp [words, splitBy, runWords]
    exact ⟨words front, c :: tail, more, by rw [hall, hwords],
      by rw [List.take_left, flatten_words], by rw [hat]; rfl⟩

/-- **Starts of words.** A word starts at the first character of every run of letters and digits, and
inside a run at a capital after a small letter or a digit, or between a capital and a small letter;
it starts nowhere else. -/
theorem wordAt_iff (cs : List Char) (i : Nat) : WordAt cs i ↔ StartsAt cs i := by
  by_cases hi : i < cs.length
  · obtain ⟨front, c, rest, rfl, rfl⟩ : ∃ front c rest, cs = front ++ c :: rest ∧ front.length = i :=
      ⟨cs.take i, cs[i], cs.drop (i + 1), by simp, by simp; omega⟩
    exact wordAt_append_iff
  · have hnone : cs[i]? = none := List.getElem?_eq_none (Nat.le_of_not_lt hi)
    constructor
    · rintro ⟨before, w, after, hwords, -, hhead⟩
      rw [hnone, List.head?_eq_none_iff] at hhead
      have hw : w ∈ words cs := by simp [hwords]
      exact absurd hhead (ne_nil_of_mem_words hw)
    · rintro (⟨c, hc, -, -⟩ | ⟨p, c, -, hc, -, -⟩ | ⟨p, c, n, -, hc, -, -, -, -⟩) <;>
        exact absurd (hnone.symm.trans hc) nofun

end ServiceSchema.Text
