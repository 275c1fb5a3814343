/-
Trimming takes a text apart in one way only: blank characters, a middle part with
no blank character at its ends, blank characters (`exists_frame`, `trimmed_frame`).
-/
import Mathlib.Data.List.TakeWhile
import ServiceSchema.Text.Blank

namespace ServiceSchema.Text

/-- All characters of a text are blank. -/
def Blank (cs : List Char) : Prop := ∀ c ∈ cs, isBlank c = true

/-- A text neither starts nor ends with a blank character. -/
structure Tight (cs : List Char) : Prop where
  head : ∀ c, cs.head? = some c → isBlank c = false
  last : ∀ c, cs.getLast? = some c → isBlank c = false

theorem dropWhile_blank {cs : List Char} (h : ∀ c, cs.head? = some c → isBlank c = false) :
    cs.dropWhile isBlank = cs := by
  cases cs with
  | nil => rfl
  | cons c rest => simp [h c rfl]

theorem trimmed_frame {before core after : List Char} (hb : Blank before) (hc : Tight core)
    (ha : Blank after) : trimmed (before ++ core ++ after) = core := by
  have hafter : ∀ c ∈ after.reverse, isBlank c = true := fun c h => ha c (List.mem_reverse.1 h)
  rw [trimmed, List.append_assoc, List.dropWhile_append_of_pos hb]
  cases hcore : core with
  | nil =>
    have hall : after.dropWhile isBlank = [] := List.dropWhile_eq_nil_iff.2 ha
    simp [hall]
  | cons c rest =>
    have hhead : ∀ d, (c :: rest ++ after).head? = some d → isBlank d = false :=
      fun d hd => hc.head d (by simpa [hcore] using hd)
    have hlast : ∀ d, (c :: rest).reverse.head? = some d → isBlank d = false :=
      fun d hd => hc.last d (by rw [hcore, ← List.head?_reverse]; exact hd)
    rw [dropWhile_blank hhead, List.reverse_append, List.dropWhile_append_of_pos hafter,
      dropWhile_blank hlast, List.reverse_reverse]

theorem tight_trimmed (cs : List Char) : Tight (trimmed cs) := by
  refine ⟨fun c hc => ?_, fun c hc => ?_⟩
  · have hsuffix : trimmed cs <+: cs.dropWhile isBlank := by
      rw [trimmed, ← List.reverse_suffix, List.reverse_reverse]
      exact List.dropWhile_suffix _
    have hhead : (cs.dropWhile isBlank).head? = some c := by
      obtain ⟨tail, ht⟩ := hsuffix
      cases hcs : trimmed cs with
      | nil => simp [hcs] at hc
      | cons d rest =>
        rw [hcs] at hc ht
        rw [← ht]
        exact hc
    have := List.head?_dropWhile_not isBlank cs
    simpa [hhead] using this
  · rw [trimmed, List.getLast?_reverse] at hc
    have := List.head?_dropWhile_not isBlank (cs.dropWhile isBlank).reverse
    simpa [hc] using this

/-- A text is its trimmed part, with blank characters around it. -/
theorem exists_frame (cs : List Char) :
    ∃ before after, Blank before ∧ Blank after ∧ cs = before ++ trimmed cs ++ after := by
  refine ⟨cs.takeWhile isBlank, ((cs.dropWhile isBlank).reverse.takeWhile isBlank).reverse,
    fun c hc => ?_, fun c hc => ?_, ?_⟩
  · exact List.mem_takeWhile_imp hc
  · exact List.mem_takeWhile_imp (List.mem_reverse.1 hc)
  · rw [trimmed, List.append_assoc, ← List.reverse_append, List.takeWhile_append_dropWhile,
      List.reverse_reverse, List.takeWhile_append_dropWhile]

/-- The blank characters around a text are determined by the whole. -/
theorem frame_inj {before core after before' core' after' : List Char} (hb : Blank before)
    (hc : Tight core) (ha : Blank after) (hb' : Blank before') (hc' : Tight core')
    (ha' : Blank after') (hne : core ≠ [])
    (h : before ++ core ++ after = before' ++ core' ++ after') :
    before = before' ∧ core = core' ∧ after = after' := by
  have hcore : core = core' := by
    rw [← trimmed_frame hb hc ha, h, trimmed_frame hb' hc' ha']
  subst hcore
  have hbefore : ∀ {b a : List Char}, Blank b → (b ++ core ++ a).takeWhile isBlank = b := by
    intro b a hblank
    obtain ⟨c, rest, rfl⟩ := List.exists_cons_of_ne_nil hne
    rw [List.append_assoc, List.takeWhile_append_of_pos hblank]
    simp [hc.head c rfl]
  have hbb : before = before' := by rw [← hbefore hb, h, hbefore hb']
  subst hbb
  exact ⟨rfl, rfl, List.append_cancel_left h⟩

end ServiceSchema.Text
