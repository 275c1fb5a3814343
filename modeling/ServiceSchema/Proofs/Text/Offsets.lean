/-
The words of a name by byte offsets (`wordsByOffset?`): the name is cut at its separators, then an
index goes over the bytes of each run, looking one byte back and one ahead, and every word is a slice
of the run from the offset where it starts. Slices may be taken only in range and between characters
(`slice?`), and only bytes that are there can be looked at.

No look and no slice fails, whatever the name, and the words are the same (`wordsByOffset?_eq`). All
offsets belong to a run, which is made of ASCII letters and digits, a byte each; characters of
several bytes only stand between runs.
-/
import Mathlib.Data.List.Basic
import ServiceSchema.Proofs.Text.Words
import ServiceSchema.Proofs.Text.WordStarts

namespace ServiceSchema.Text

/-! ## Slices and bytes -/

/-- The part of a text between two byte offsets, if they are in range, in order, and not inside a
character. -/
def slice? (s : String) (start stop : Nat) : Option String :=
  if h : start ≤ stop ∧ (⟨start⟩ : String.Pos.Raw).IsValid s ∧ (⟨stop⟩ : String.Pos.Raw).IsValid s then
    some (s.extract ⟨⟨start⟩, h.2.1⟩ ⟨⟨stop⟩, h.2.2⟩)
  else none

/-- The byte at an offset, as the character with that code. -/
def byteAt? (s : String) (i : Nat) : Option Char :=
  s.toByteArray.data[i]?.map Char.ofUInt8

theorem slice?_append (s t u : String) :
    slice? (s ++ t ++ u) s.utf8ByteSize (s ++ t).utf8ByteSize = some t := by
  have hstart : (⟨s.utf8ByteSize⟩ : String.Pos.Raw).IsValid (s ++ t ++ u) :=
    String.Pos.Raw.isValid_iff_exists_append.2 ⟨s, t ++ u, String.append_assoc .., rfl⟩
  have hstop : (⟨(s ++ t).utf8ByteSize⟩ : String.Pos.Raw).IsValid (s ++ t ++ u) :=
    String.Pos.Raw.isValid_iff_exists_append.2 ⟨s ++ t, u, rfl, rfl⟩
  have hle : s.utf8ByteSize ≤ (s ++ t).utf8ByteSize := by simp
  rw [slice?, dif_pos ⟨hle, hstart, hstop⟩, Option.some_inj, ← String.toByteArray_inj]
  calc (s ++ t ++ u).toByteArray.extract s.utf8ByteSize (s ++ t).utf8ByteSize
      = (s.toByteArray ++ (t.toByteArray ++ u.toByteArray)).extract (s.toByteArray.size + 0)
          (s.toByteArray.size + t.toByteArray.size) := by simp [ByteArray.append_assoc]
    _ = (t.toByteArray ++ u.toByteArray).extract 0 t.toByteArray.size :=
        ByteArray.extract_append_size_add
    _ = t.toByteArray := ByteArray.extract_append_eq_left rfl

/-! ## Texts in ASCII -/

def IsAscii (cs : List Char) : Prop := ∀ c ∈ cs, c.val ≤ 127

theorem IsAscii.left {front rest : List Char} (h : IsAscii (front ++ rest)) : IsAscii front :=
  fun c hc => h c (List.mem_append_left _ hc)

theorem val_le_of_isAlphanum {c : Char} (h : c.isAlphanum = true) : c.val ≤ 127 := by
  simp only [Char.isAlphanum, Char.isAlpha, Char.isUpper, Char.isLower, Char.isDigit,
    Bool.or_eq_true, Bool.and_eq_true, decide_eq_true_eq, UInt32.le_iff_toNat_le, ge_iff_le] at h ⊢
  have h127 : (127 : UInt32).toNat = 127 := rfl
  have hZ : 'Z'.val.toNat = 90 := rfl
  have hz : 'z'.val.toNat = 122 := rfl
  have h9 : '9'.val.toNat = 57 := rfl
  omega

theorem data_ofList {cs : List Char} (h : IsAscii cs) :
    (String.ofList cs).toByteArray.data = (cs.map fun c => c.val.toUInt8).toArray := by
  have hencode : ∀ c ∈ cs, String.utf8EncodeChar c = [c.val.toUInt8] := fun c hc =>
    String.utf8EncodeChar_eq_singleton (Char.utf8Size_eq_one_iff.2 (h c hc))
  rw [String.toByteArray_ofList, List.utf8Encode, List.data_toByteArray, List.flatMap_congr hencode,
    List.map_eq_flatMap]

theorem utf8ByteSize_ofList {cs : List Char} (h : IsAscii cs) :
    (String.ofList cs).utf8ByteSize = cs.length := by
  rw [← String.size_toByteArray, ← ByteArray.size_data, data_ofList h, List.size_toArray,
    List.length_map]

theorem ofUInt8_toUInt8 {c : Char} (h : c.val ≤ 127) : Char.ofUInt8 c.val.toUInt8 = c := by
  have hc : c.toNat ≤ 127 := h
  apply Char.ext
  apply UInt32.toNat_inj.1
  simp only [Char.ofUInt8, UInt8.toNat_toUInt32, UInt32.toNat_toUInt8, Char.toNat_val]
  omega

theorem byteAt?_ofList {cs : List Char} (h : IsAscii cs) (i : Nat) :
    byteAt? (String.ofList cs) i = cs[i]? := by
  rw [byteAt?, data_ofList h, List.getElem?_toArray, List.getElem?_map, Option.map_map]
  cases hc : cs[i]? with
  | none => rfl
  | some c => exact congrArg some (ofUInt8_toUInt8 (h c (List.mem_of_getElem? hc)))

theorem slice?_ofList {front word rest : List Char} (h : IsAscii (front ++ word ++ rest)) :
    slice? (String.ofList (front ++ word ++ rest)) front.length (front ++ word).length =
      some (String.ofList word) := by
  have hslice := slice?_append (String.ofList front) (String.ofList word) (String.ofList rest)
  rwa [← String.ofList_append, ← String.ofList_append, utf8ByteSize_ofList h.left,
    utf8ByteSize_ofList h.left.left] at hslice

/-! ## The loop -/

/-- Looks at a byte of a run. The state is the offset where the word under way starts, and the words
before it. -/
def cutAt (run : String) (state : Nat × List String) (i : Nat) : Option (Nat × List String) := do
  let (start, found) := state
  let before ← byteAt? run (i - 1)
  let here ← byteAt? run i
  if startsWord before here (byteAt? run (i + 1)).toList then
    let word ← slice? run start i
    return (i, found ++ [word])
  else return (start, found)

/-- Takes the last word of a run. -/
def cutRest (run : String) (state : Nat × List String) : Option (List String) := do
  let (start, found) := state
  if start < run.utf8ByteSize then
    let word ← slice? run start run.utf8ByteSize
    return found ++ [word]
  else return found

/-- The words of a run, as slices of it. -/
def runWordsByOffset? (run : String) : Option (List String) := do
  let state ← (List.range' 1 (run.utf8ByteSize - 1)).foldlM (cutAt run) (0, [])
  cutRest run state

/-- The words of a text, as slices of its runs. -/
def wordsByOffset? (s : String) : Option (List String) := do
  let found ← ((splitBy (fun c => !c.isAlphanum) s.toList).map String.ofList).mapM runWordsByOffset?
  return found.flatten

variable {run rest : List Char} {p c : Char}

/-- At a character in the middle of a run, the word under way goes on, or is taken. -/
theorem cutAt_eq {front word : List Char} {i : Nat} (h : IsAscii run)
    (hrun : run = front ++ (word ++ [p]) ++ c :: rest) (hi : i = (front ++ (word ++ [p])).length)
    (found : List String) :
    cutAt (String.ofList run) (front.length, found) i =
      some (if startsWord p c rest then (i, found ++ [String.ofList (word ++ [p])])
        else (front.length, found)) := by
  have hbefore : run[i - 1]? = some p := by simp [hrun, hi]
  have hhere : run[i]? = some c := by simp [hrun, hi]
  have hnext : run[i + 1]? = rest.head? := by
    rw [hrun, hi, List.getElem?_append_right (Nat.le_succ _), Nat.succ_sub (Nat.le_refl _),
      Nat.sub_self, List.getElem?_cons_succ, List.head?_eq_getElem?]
  have hslice : slice? (String.ofList run) front.length i = some (String.ofList (word ++ [p])) := by
    rw [hrun] at h ⊢
    rw [hi]
    exact slice?_ofList h
  have hstarts : startsWord p c rest.head?.toList = startsWord p c rest := by
    cases rest <;> rfl
  simp only [cutAt, byteAt?_ofList h, hbefore, hhere, hnext, hslice, hstarts, Option.bind_eq_bind,
    Option.bind_some]
  split <;> rfl

/-- What is left of the loop after a character, which ends the part of a word that has been passed:
the first word of what is left goes on from there. -/
theorem foldlM_cutAt (h : IsAscii run) (front word : List Char) {i : Nat}
    (hrun : run = front ++ (word ++ [p]) ++ rest) (hi : i = (front ++ (word ++ [p])).length)
    (found : List String) :
    ((List.range' i rest.length).foldlM (cutAt (String.ofList run)) (front.length, found) >>=
        cutRest (String.ofList run)) =
      some (found ++ ((runWords (p :: rest)).modifyHead (word ++ ·)).map String.ofList) := by
  induction rest generalizing front word p i found with
  | nil =>
    have hlength : front.length < run.length := by simp [hrun]
    have hslice : slice? (String.ofList run) front.length run.length =
        some (String.ofList (word ++ [p])) := by
      rw [List.append_nil] at hrun
      rw [hrun, ← List.append_nil (front ++ (word ++ [p]))] at h
      have hlast := slice?_ofList h
      rwa [List.append_nil, ← hrun] at hlast
    simp [cutRest, utf8ByteSize_ofList h, hlength, hslice, runWords, cutAfter]
  | cons c rest ih =>
    obtain ⟨piece, more, hwords, -⟩ := exists_runWords c rest
    rw [List.length_cons, List.range'_succ, List.foldlM_cons, cutAt_eq h hrun hi,
      runWords_cons_cons, hwords]
    by_cases hstarts : startsWord p c rest = true
    · have hrest := ih (p := c) (i := i + 1) (front ++ (word ++ [p])) [] (by simp [hrun])
        (by simp [hi]; omega) (found ++ [String.ofList (word ++ [p])])
      rw [hwords, ← hi] at hrest
      simpa [hstarts] using hrest
    · have hrest := ih (p := c) (i := i + 1) front (word ++ [p]) (by simp [hrun])
        (by simp [hi]; omega) found
      rw [hwords] at hrest
      simpa [hstarts] using hrest

theorem runWordsByOffset?_eq (h : IsAscii run) :
    runWordsByOffset? (String.ofList run) = some ((runWords run).map String.ofList) := by
  cases run with
  | nil => rfl
  | cons p rest =>
    have hloop := foldlM_cutAt h [] [] rfl rfl []
    obtain ⟨piece, more, hwords, -⟩ := exists_runWords p rest
    rw [runWordsByOffset?, utf8ByteSize_ofList h]
    rw [hwords] at hloop ⊢
    exact hloop

/-- Every look at a byte and every slice succeeds, and the slices are the words. -/
theorem wordsByOffset?_eq (s : String) :
    wordsByOffset? s = some ((words s.toList).map String.ofList) := by
  have hruns : ∀ runs : List (List Char), (∀ run ∈ runs, IsAscii run) →
      (runs.map String.ofList).mapM runWordsByOffset? =
        some (runs.map fun run => (runWords run).map String.ofList) := by
    intro runs h
    induction runs with
    | nil => rfl
    | cons run more ih =>
      obtain ⟨hrun, hmore⟩ := List.forall_mem_cons.1 h
      rw [List.map_cons, List.mapM_cons, runWordsByOffset?_eq hrun, ih hmore]
      rfl
  have hascii : ∀ run ∈ splitBy (fun c => !c.isAlphanum) s.toList, IsAscii run := by
    intro run hrun c hc
    have hmem : c ∈ (splitBy (fun c => !c.isAlphanum) s.toList).flatten :=
      List.mem_flatten_of_mem hrun hc
    rw [flatten_splitBy] at hmem
    exact val_le_of_isAlphanum (by simpa using (List.mem_filter.1 hmem).2)
  rw [wordsByOffset?, hruns _ hascii, words, List.map_flatMap, List.flatMap_def]
  rfl

/-- **Words.** The words of a text are its ASCII letters and digits in order, without loss, and none
of them is empty. They start where runs start and at changes of case, and nowhere else. Taken by byte
offsets they are the same, and no offset is out of range or inside a character. -/
theorem words_spec (s : String) :
    (words s.toList).flatten = s.toList.filter Char.isAlphanum ∧ [] ∉ words s.toList ∧
      (∀ i, WordAt s.toList i ↔ StartsAt s.toList i) ∧
      wordsByOffset? s = some ((words s.toList).map String.ofList) :=
  ⟨flatten_words _, fun h => ne_nil_of_mem_words h rfl, wordAt_iff _, wordsByOffset?_eq s⟩

end ServiceSchema.Text
