/-
What the splitter answers, by counting brackets (`splitTopLevel?_spec`). Both kinds of brackets
count alike. There is no answer exactly when a first part of the text closes more than it opens, or
the text as a whole does not close what it opens. Otherwise the pieces are those of the only list
that gives the text back with commas in between, in which every piece closes what it opens, never
more, and has its commas inside brackets (`Piece`).

The splitter goes from left to right with a number of open brackets, so all of this is shown for a
text that stands inside that many. A character either ends the splitting, or ends a piece, or goes
into the piece and changes the number (`Moves`).
-/
import ServiceSchema.Proofs.TypeExpr.Split

namespace ServiceSchema.TypeExpr

variable {depth below : Nat} {c : Char} {cs rest : List Char} {pieces : List (List Char)}

/-! ## Counting brackets -/

/-- How many brackets of either kind open in a text. -/
def openings (cs : List Char) : Nat := cs.count '<' + cs.count '['

/-- How many brackets of either kind close in a text. -/
def closings (cs : List Char) : Nat := cs.count '>' + cs.count ']'

@[simp] theorem openings_nil : openings [] = 0 := rfl

@[simp] theorem closings_nil : closings [] = 0 := rfl

/-- Either kind of bracket, and no other character, is an opening one to the splitter. -/
@[simp] theorem openings_cons : openings (c :: cs) = openings cs + if opens c then 1 else 0 := by
  simp only [openings, opens, List.count_cons, Bool.or_eq_true, beq_iff_eq]
  by_cases hangle : c = '<'
  · simp [hangle, Nat.add_right_comm]
  · simp [hangle, Nat.add_assoc]

/-- Either kind of bracket, and no other character, is a closing one to the splitter. -/
@[simp] theorem closings_cons : closings (c :: cs) = closings cs + if closes c then 1 else 0 := by
  simp only [closings, closes, List.count_cons, Bool.or_eq_true, beq_iff_eq]
  by_cases hangle : c = '>'
  · simp [hangle, Nat.add_right_comm]
  · simp [hangle, Nat.add_assoc]

theorem not_closes_of_opens (h : opens c = true) : closes c = false := by
  simp only [opens, Bool.or_eq_true, beq_iff_eq] at h
  rcases h with rfl | rfl <;> rfl

theorem not_opens_of_closes (h : closes c = true) : opens c = false :=
  Bool.eq_false_iff.2 fun hopens => by simp [not_closes_of_opens hopens] at h

/-! ## Characters -/

/-- A character goes into the piece, and so many brackets are open after it. -/
inductive Moves (depth : Nat) (c : Char) : Nat → Prop
  | opening (h : opens c = true) : Moves depth c (depth + 1)
  | closing (below : Nat) (h : closes c = true) (hdepth : depth = below + 1) : Moves depth c below
  | plain (hopens : opens c = false) (hcloses : closes c = false) (hcomma : c = ',' → 0 < depth) :
      Moves depth c depth

theorem Moves.comma (h : Moves depth c below) (hcomma : c = ',') : 0 < depth := by
  cases h with
  | opening h => rw [hcomma] at h; cases h
  | closing _ h => rw [hcomma] at h; cases h
  | plain _ _ h => exact h hcomma

/-- What is open after a character is what is open before it and the character itself. -/
theorem Moves.balance (h : Moves depth c below) (front : List Char) :
    depth + openings (c :: front) + closings front =
      below + openings front + closings (c :: front) := by
  cases h with
  | opening h => simp [h, not_closes_of_opens h]; omega
  | closing _ h hdepth =>
    simp [h, not_opens_of_closes h]
    omega
  | plain hopens hcloses => simp [hopens, hcloses]

theorem moves_cases (depth : Nat) (c : Char) :
    (depth = 0 ∧ closes c = true) ∨ (depth = 0 ∧ c = ',') ∨ ∃ below, Moves depth c below := by
  by_cases hopens : opens c = true
  · exact .inr (.inr ⟨depth + 1, .opening hopens⟩)
  by_cases hcloses : closes c = true
  · cases depth with
    | zero => exact .inl ⟨rfl, hcloses⟩
    | succ below => exact .inr (.inr ⟨below, .closing below hcloses rfl⟩)
  by_cases hcomma : depth = 0 ∧ c = ','
  · exact .inr (.inl hcomma)
  · refine .inr (.inr ⟨depth, .plain (by simpa using hopens) (by simpa using hcloses) fun hc => ?_⟩)
    exact Nat.pos_of_ne_zero fun hd => hcomma ⟨hd, hc⟩

theorem splitTopLevel?_close (h : closes c = true) : splitTopLevel? 0 (c :: rest) = none := by
  simp [splitTopLevel?, h, not_opens_of_closes h]

theorem splitTopLevel?_comma :
    splitTopLevel? 0 (',' :: rest) = (splitTopLevel? 0 rest).map ([] :: ·) := by
  simp [splitTopLevel?, opens, closes]

theorem splitTopLevel?_moves (h : Moves depth c below) :
    splitTopLevel? depth (c :: rest) = (splitTopLevel? below rest).map (prepend c) := by
  cases h with
  | opening h => rw [splitTopLevel?, if_pos h]
  | closing _ h hdepth =>
    subst hdepth
    rw [splitTopLevel?, if_neg (by simp [not_opens_of_closes h]), if_pos h,
      if_neg (Nat.succ_ne_zero _), Nat.add_sub_cancel]
  | plain hopens hcloses hcomma =>
    have hne : ¬ (c = ',' ∧ depth = 0) := fun h => absurd h.2 (Nat.ne_of_gt (hcomma h.1))
    rw [splitTopLevel?, if_neg (by simp [hopens]), if_neg (by simp [hcloses]), if_neg hne]

/-! ## Texts without an answer -/

/-- A first part of the text closes a bracket that is not open. -/
def Overcloses (depth : Nat) (cs : List Char) : Prop :=
  ∃ front, front <+: cs ∧ depth + openings front < closings front

theorem not_overcloses_nil : ¬ Overcloses depth [] := by
  rintro ⟨front, hfront, hlt⟩
  rw [List.prefix_nil.1 hfront] at hlt
  exact absurd hlt (Nat.not_lt_zero _)

/-- The empty first part closes nothing, so the character is in the one that closes too much. -/
theorem overcloses_cons :
    Overcloses depth (c :: rest) ↔
      ∃ front, front <+: rest ∧ depth + openings (c :: front) < closings (c :: front) := by
  constructor
  · rintro ⟨front, hfront, hlt⟩
    rcases List.prefix_cons_iff.1 hfront with rfl | ⟨front, rfl, hrest⟩
    · exact absurd hlt (Nat.not_lt_zero _)
    · exact ⟨front, hrest, hlt⟩
  · rintro ⟨front, hfront, hlt⟩
    exact ⟨c :: front, List.cons_prefix_cons.2 ⟨rfl, hfront⟩, hlt⟩

theorem Moves.overcloses_iff (h : Moves depth c below) :
    Overcloses depth (c :: rest) ↔ Overcloses below rest := by
  rw [overcloses_cons]
  refine exists_congr fun front => and_congr_right fun _ => ?_
  have := h.balance front
  omega

theorem splitTopLevel?_eq_none_iff :
    splitTopLevel? depth cs = none ↔
      Overcloses depth cs ∨ depth + openings cs ≠ closings cs := by
  induction cs generalizing depth with
  | nil => simp [splitTopLevel?, not_overcloses_nil]
  | cons c rest ih =>
    rcases moves_cases depth c with ⟨rfl, hcloses⟩ | ⟨rfl, rfl⟩ | ⟨below, h⟩
    · have hover : Overcloses 0 (c :: rest) :=
        overcloses_cons.2 ⟨[], List.nil_prefix, by simp [hcloses, not_opens_of_closes hcloses]⟩
      simp [splitTopLevel?_close hcloses, hover]
    · have hopens : opens ',' = false := rfl
      have hcloses : closes ',' = false := rfl
      have hover : Overcloses 0 (',' :: rest) ↔ Overcloses 0 rest := by
        rw [overcloses_cons]
        simp [hopens, hcloses, Overcloses]
      simp [splitTopLevel?_comma, ih, hover, hopens, hcloses]
    · have htotal := h.balance rest
      rw [splitTopLevel?_moves h, Option.map_eq_none_iff, ih, h.overcloses_iff]
      refine or_congr_right ?_
      omega

/-! ## Pieces -/

/-- A piece of a text, from a place where so many brackets are open: it closes them and what it
opens, never more, and has its commas inside brackets. -/
structure Piece (depth : Nat) (cs : List Char) : Prop where
  closed : depth + openings cs = closings cs
  never_more : ∀ front, front <+: cs → closings front ≤ depth + openings front
  enclosed : ∀ front, front ++ [','] <+: cs → closings front < depth + openings front

theorem Piece.nil : Piece 0 [] where
  closed := rfl
  never_more := by
    intro front hfront
    rw [List.prefix_nil.1 hfront]
    simp
  enclosed := by
    intro front hfront
    simp at hfront

theorem Moves.piece_iff (h : Moves depth c below) : Piece depth (c :: cs) ↔ Piece below cs := by
  constructor
  · intro hp
    have hfronts : ∀ front, front <+: cs → c :: front <+: c :: cs := fun front hfront =>
      List.cons_prefix_cons.2 ⟨rfl, hfront⟩
    refine ⟨?_, fun front hfront => ?_, fun front hfront => ?_⟩
    · have := h.balance cs
      have := hp.closed
      omega
    · have := h.balance front
      have := hp.never_more _ (hfronts front hfront)
      omega
    · have := h.balance front
      have := hp.enclosed (c :: front) (hfronts _ hfront)
      omega
  · intro hp
    refine ⟨?_, fun front hfront => ?_, fun front hfront => ?_⟩
    · have := h.balance cs
      have := hp.closed
      omega
    · rcases List.prefix_cons_iff.1 hfront with rfl | ⟨front, rfl, hrest⟩
      · exact Nat.zero_le _
      · have := h.balance front
        have := hp.never_more front hrest
        omega
    · cases front with
      | nil =>
        have hcomma : c = ',' := (List.cons_prefix_cons.1 hfront).1.symm
        simpa using h.comma hcomma
      | cons d front =>
        obtain ⟨rfl, hrest⟩ := List.cons_prefix_cons.1 hfront
        have := h.balance front
        have := hp.enclosed front hrest
        omega

/-- A piece starts with a character that goes into it. -/
theorem Piece.exists_moves (h : Piece depth (c :: cs)) : ∃ below, Moves depth c below := by
  rcases moves_cases depth c with ⟨rfl, hcloses⟩ | ⟨rfl, rfl⟩ | hmoves
  · have := h.never_more [c] (by simp)
    simp [hcloses, not_opens_of_closes hcloses] at this
  · exact absurd (h.enclosed [] (by simp)) (Nat.lt_irrefl 0)
  · exact hmoves

/-- The first of the pieces starts inside the open brackets, the others inside none. -/
theorem exists_piece (h : splitTopLevel? depth cs = some pieces) :
    ∃ first more, pieces = first :: more ∧ Piece depth first ∧ ∀ p ∈ more, Piece 0 p := by
  induction cs generalizing depth pieces with
  | nil =>
    rw [splitTopLevel?] at h
    split at h
    · rename_i hdepth
      cases h
      subst hdepth
      exact ⟨[], [], rfl, .nil, by simp⟩
    · cases h
  | cons c rest ih =>
    rcases moves_cases depth c with ⟨rfl, hcloses⟩ | ⟨rfl, rfl⟩ | ⟨below, hmoves⟩
    · rw [splitTopLevel?_close hcloses] at h
      cases h
    · rw [splitTopLevel?_comma] at h
      obtain ⟨ps, hps, rfl⟩ := Option.map_eq_some_iff.1 h
      obtain ⟨first, more, rfl, hfirst, hmore⟩ := ih hps
      exact ⟨[], first :: more, rfl, .nil, List.forall_mem_cons.2 ⟨hfirst, hmore⟩⟩
    · rw [splitTopLevel?_moves hmoves] at h
      obtain ⟨ps, hps, rfl⟩ := Option.map_eq_some_iff.1 h
      obtain ⟨first, more, rfl, hfirst, hmore⟩ := ih hps
      exact ⟨c :: first, more, rfl, hmoves.piece_iff.2 hfirst, hmore⟩

/-- A piece is taken in without being cut. -/
theorem Piece.split (h : Piece depth cs) :
    splitTopLevel? depth (cs ++ rest) = (splitTopLevel? 0 rest).map fun ps => cs.foldr prepend ps := by
  induction cs generalizing depth with
  | nil =>
    have hdepth : depth = 0 := by simpa using h.closed
    simp [hdepth]
  | cons c cs ih =>
    obtain ⟨below, hmoves⟩ := h.exists_moves
    rw [List.cons_append, splitTopLevel?_moves hmoves, ih (hmoves.piece_iff.1 h), Option.map_map]
    rfl

/-- Pieces, listed with commas in between, are what the splitter gives. -/
theorem splitTopLevel?_intercalate (hne : pieces ≠ []) (h : ∀ p ∈ pieces, Piece 0 p) :
    splitTopLevel? 0 ([','].intercalate pieces) = some pieces := by
  induction pieces with
  | nil => exact absurd rfl hne
  | cons p more ih =>
    obtain ⟨hp, hmore⟩ := List.forall_mem_cons.1 h
    cases more with
    | nil =>
      have hone : splitTopLevel? 0 (p ++ []) = _ := hp.split
      rw [List.append_nil] at hone
      rw [List.intercalate_singleton, hone]
      simp [splitTopLevel?, foldr_prepend]
    | cons q more =>
      rw [List.intercalate_cons_cons, List.append_assoc, hp.split, List.singleton_append,
        splitTopLevel?_comma, ih (List.cons_ne_nil _ _) hmore]
      simp [foldr_prepend]

/-- **What the splitter answers.** There is no answer exactly when a first part of the text has more
closing brackets than opening ones, or the whole has not as many of both. The answer is the list of
pieces that gives the text back with commas in between; each of them closes what it opens, never
more, and has no comma outside brackets. -/
theorem splitTopLevel?_spec (cs : List Char) :
    (splitTopLevel? 0 cs = none ↔
      (∃ front, front <+: cs ∧ openings front < closings front) ∨ openings cs ≠ closings cs) ∧
    ∀ pieces, splitTopLevel? 0 cs = some pieces ↔
      pieces ≠ [] ∧ [','].intercalate pieces = cs ∧ ∀ piece ∈ pieces, Piece 0 piece := by
  constructor
  · rw [splitTopLevel?_eq_none_iff]
    simp only [Overcloses, Nat.zero_add]
  · intro pieces
    constructor
    · intro h
      obtain ⟨first, more, rfl, hfirst, hmore⟩ := exists_piece h
      exact ⟨List.cons_ne_nil _ _, intercalate_splitTopLevel? h, List.forall_mem_cons.2 ⟨hfirst, hmore⟩⟩
    · rintro ⟨hne, rfl, hpieces⟩
      exact splitTopLevel?_intercalate hne hpieces

example : splitTopLevel? 0 "é, [a, b]".toList = some ["é".toList, " [a, b]".toList] := by decide

end ServiceSchema.TypeExpr
