/-
The reader of type expressions against their grammar. It does not follow the
grammar: it takes off outer brackets without looking for the matching ones, and
counts both kinds of brackets together. Still it reads what is derived
(`read_text`), since a derived text is never cut in the wrong place, and what it
reads is derived (`exists_phrase`), since it reads every piece it cuts off.
-/
import ServiceSchema.Proofs.TypeExpr.Grammar

namespace ServiceSchema.TypeExpr

/-! ## What is derived is read -/

theorem read_of_name {input : List Char} {n : Name} (h : Text.trimmed input = n.text) :
    read input = .ok (ofName (String.ofList n.text)) := by
  have hargs : splitArguments n.text = .ok none :=
    splitArguments_eq_none.2 ⟨n.not_mem not_plain_open, n.not_mem not_plain_close⟩
  rw [read]
  split
  · rename_i hexpr
    rw [h] at hexpr
    cases hexpr
  · rename_i c rest hexpr
    rw [h] at hexpr
    have hc : c ≠ '[' := by
      rintro rfl
      exact n.not_mem not_plain_bracket (by rw [hexpr]; simp)
    rw [if_neg hc]
    rw [hexpr] at hargs
    split
    · simp_all
    · rw [if_pos (isName_iff.2 ⟨n, hexpr⟩), hexpr]
    · simp_all

theorem read_of_bracketed {input inner : List Char}
    (h : Text.trimmed input = '[' :: (inner ++ [']'])) : read input = (read inner).map .list := by
  rw [read]
  split
  · simp_all
  · rename_i c rest hexpr
    rw [h] at hexpr
    cases hexpr
    rw [if_pos rfl]
    have hinner : dropFinal? ']' (inner ++ [']']) = some inner := dropFinal?_eq_some.2 rfl
    split <;> simp_all

/-- A text with arguments is read by its head and the pieces of what the brackets enclose. -/
theorem read_of_arguments {input head args : List Char} {c : Char} {rest : List Char}
    {pieces : List (List Char)} (hexpr : Text.trimmed input = c :: rest) (hc : c ≠ '[')
    (hargs : splitArguments (c :: rest) = .ok (some (head, args)))
    (hpieces : splitTopLevel? 0 args = some pieces) :
    read input =
      if head = ['l', 'i', 's', 't'] then
        match pieces with
        | [element] => (read element).map .list
        | _ => .error ⟨String.ofList input, .listArity⟩
      else if head = ['m', 'a', 'p'] then
        match pieces with
        | [key, value] => do
          let key ← read key
          let value ← read value
          return .map key value
        | _ => .error ⟨String.ofList input, .mapArity⟩
      else .error ⟨String.ofList input, .noArguments⟩ := by
  rw [read]
  split
  · simp_all
  · rename_i c' rest' hexpr'
    cases hexpr.symm.trans hexpr'
    rw [if_neg hc]
    split
    · simp_all
    · simp_all
    · rename_i head' args' hargs'
      cases hargs.symm.trans hargs'
      split
      · simp_all
      · rename_i pieces' hpieces'
        cases hpieces.symm.trans hpieces'
        rfl

/-- The head of a composite type and what its brackets enclose. -/
theorem splitArguments_of_head {head args : List Char} (gap : Blanks)
    (hhead : head.all continuesName = true) :
    splitArguments (head ++ gap ++ '<' :: (args ++ ['>'])) = .ok (some (head, args)) := by
  have hblank : Text.Blank [] := by simp [Text.Blank]
  have htight := tight_of_continuesName (List.all_eq_true.1 hhead)
  refine splitArguments_eq_some.2 ⟨head ++ gap, not_mem_head hhead gap, rfl, ?_⟩
  exact (Text.trimmed_frame hblank htight gap.blank).symm

theorem read_text {p : Phrase} {t : TypeExpr} (h : p.Means t) : read p.text = .ok t := by
  induction h with
  | @name b n a t h =>
    rw [read_of_name (Phrase.trimmed_text (.name b n a)), n.means_iff.1 h]
  | @bracketed b element a t _ ih =>
    rw [read_of_bracketed (Phrase.trimmed_text (.bracketed b element a)), ih]
    rfl
  | @list b gap element a t _ ih =>
    have hargs : splitArguments (Phrase.list b gap element a).core =
        .ok (some (['l', 'i', 's', 't'], element.text)) := splitArguments_of_head gap (by decide)
    have hpieces := element.passes_text.split_one
    rw [read_of_arguments (Phrase.trimmed_text (.list b gap element a)) (by decide) hargs hpieces,
      if_pos rfl]
    simp only [ih]
    rfl
  | @map b gap key value a k v _ _ ihk ihv =>
    have hargs : splitArguments (Phrase.map b gap key value a).core =
        .ok (some (['m', 'a', 'p'], key.text ++ ',' :: value.text)) :=
      splitArguments_of_head gap (by decide)
    have hpieces := key.passes_text.split_two value.passes_text
    rw [read_of_arguments (Phrase.trimmed_text (.map b gap key value a)) (by decide) hargs hpieces,
      if_neg (by decide), if_pos rfl]
    simp only [ihk, ihv]
    rfl

/-! ## What is read is derived -/

/-- The text in front of the arguments is the head and blank characters, as the whole
starts with no blank character. -/
theorem front_of_tight {front tail head : List Char} (h : Text.Tight (front ++ tail))
    (hhead : Text.trimmed front = head) : ∃ gap : Blanks, front = head ++ gap := by
  obtain ⟨before, after, hb, ha, hfront⟩ := Text.exists_frame front
  rw [hhead] at hfront
  cases before with
  | nil => exact ⟨.ofBlank ha, hfront⟩
  | cons c rest =>
    have hblank : Text.isBlank c = true := hb c (by simp)
    have hnot : Text.isBlank c = false := h.head c (by rw [hfront]; rfl)
    rw [hblank] at hnot
    cases hnot

/-- What stands around the arguments of a text that has some. -/
theorem core_of_arguments {input core head args : List Char} (hexpr : Text.trimmed input = core)
    (hargs : splitArguments core = .ok (some (head, args))) :
    ∃ gap : Blanks, core = head ++ gap ++ '<' :: (args ++ ['>']) := by
  obtain ⟨front, -, hcore, hhead⟩ := splitArguments_eq_some.1 hargs
  have htight : Text.Tight (front ++ '<' :: (args ++ ['>'])) := by
    rw [← hcore, ← hexpr]
    exact Text.tight_trimmed input
  obtain ⟨gap, rfl⟩ := front_of_tight htight hhead.symm
  exact ⟨gap, hcore⟩

theorem exists_phrase {input : List Char} {t : TypeExpr} (h : read input = .ok t) :
    ∃ p : Phrase, p.text = input ∧ p.Means t := by
  fun_induction read input generalizing t with
  | case1 | case2 | case4 | case6 | case7 | case9 | case11 | case12 => cases h
  | case3 input rest inner hinner hexpr ih =>
    obtain ⟨b, a, hb, ha, hframe⟩ := Text.exists_frame input
    obtain rfl := dropFinal?_eq_some.1 hinner
    cases hr : read inner with
    | error e => rw [hr] at h; cases h
    | ok u =>
      rw [hr] at h
      cases h
      obtain ⟨p, rfl, hp⟩ := ih hr
      refine ⟨.bracketed (.ofBlank hb) p (.ofBlank ha), ?_, .bracketed hp⟩
      rw [hframe, hexpr]
      rfl
  | case5 input c rest hexpr hc hargs hname =>
    obtain ⟨b, a, hb, ha, hframe⟩ := Text.exists_frame input
    obtain ⟨n, hn⟩ := isName_iff.1 hname
    cases h
    refine ⟨.name (.ofBlank hb) n (.ofBlank ha), ?_, .name (n.means_iff.2 (by rw [hn]))⟩
    rw [hframe, hexpr, ← hn]
    rfl
  | case8 input c rest hexpr hc args element _ hargs hpieces ih =>
    obtain ⟨b, a, hb, ha, hframe⟩ := Text.exists_frame input
    obtain ⟨gap, hcore⟩ := core_of_arguments hexpr hargs
    have hjoin := intercalate_splitTopLevel? hpieces
    rw [List.intercalate_singleton] at hjoin
    cases hr : read element with
    | error e => rw [hr] at h; cases h
    | ok u =>
      rw [hr] at h
      cases h
      obtain ⟨p, hp, hmeans⟩ := ih hr
      refine ⟨.list (.ofBlank hb) gap p (.ofBlank ha), ?_, .list hmeans⟩
      rw [hframe, hexpr, hcore, ← hjoin, ← hp]
      rfl
  | case10 input c rest hexpr hc args key value _ hargs _ hpieces ihk ihv =>
    obtain ⟨b, a, hb, ha, hframe⟩ := Text.exists_frame input
    obtain ⟨gap, hcore⟩ := core_of_arguments hexpr hargs
    have hjoin := intercalate_splitTopLevel? hpieces
    rw [List.intercalate_cons_cons, List.intercalate_singleton, List.append_assoc,
      List.singleton_append] at hjoin
    cases hk : read key with
    | error e => rw [hk] at h; cases h
    | ok k =>
      cases hv : read value with
      | error e => rw [hk, hv] at h; cases h
      | ok v =>
        rw [hk, hv] at h
        cases h
        obtain ⟨p, hp, hkey⟩ := ihk hk
        obtain ⟨q, hq, hvalue⟩ := ihv hv
        refine ⟨.map (.ofBlank hb) gap p q (.ofBlank ha), ?_, .map hkey hvalue⟩
        rw [hframe, hexpr, hcore, ← hjoin, ← hp, ← hq]
        rfl

/-- **The grammar of type expressions.** A text is read to a type expression exactly when
it has a derivation that means this one, and is refused as malformed exactly when it has
no derivation; it never has two. -/
theorem parse_spec (s : String) :
    (∀ t, parse s = .ok t ↔ ∃ p : Phrase, p.text = s.toList ∧ p.Means t) ∧
      ((∃ e : MalformedType, parse s = .error e) ↔ ¬ ∃ p : Phrase, p.text = s.toList) ∧
      ∀ p q : Phrase, p.text = s.toList → q.text = s.toList → p = q := by
  have accepts : ∀ t, parse s = .ok t ↔ ∃ p : Phrase, p.text = s.toList ∧ p.Means t := by
    intro t
    constructor
    · exact exists_phrase
    · intro h
      obtain ⟨p, hp, hmeans⟩ := h
      rw [parse, ← hp, read_text hmeans]
  refine ⟨accepts, ?_, fun p q hp hq => Phrase.text_injective (hp.trans hq.symm)⟩
  constructor
  · rintro ⟨e, he⟩ ⟨p, hp⟩
    obtain ⟨t, hmeans⟩ := p.exists_means
    rw [(accepts t).2 ⟨p, hp, hmeans⟩] at he
    cases he
  · intro hnone
    cases h : parse s with
    | error e => exact ⟨e, rfl⟩
    | ok t =>
      obtain ⟨p, hp, -⟩ := (accepts t).1 h
      exact absurd ⟨p, hp⟩ hnone

/-- The derivation of `map<i32, [acme.Money]>`. -/
def mapOfLists : Phrase :=
  let nothing : Blanks := ⟨[], nofun⟩
  let space : Blanks := ⟨[' '], List.forall_mem_singleton.2 (by simp [White])⟩
  .map nothing nothing (.name nothing (.ofText 'i' "32".toList rfl) nothing)
    (.bracketed space (.name nothing (.ofText 'a' "cme.Money".toList rfl) nothing) nothing) nothing

theorem mapOfLists_means : mapOfLists.Means (.map (.scalar .int32) (.list (.named "acme.Money"))) := by
  refine .map (.name (.scalar (by decide))) (.bracketed (.name (.record fun kind => ?_)))
  cases kind with
  | other => exact nofun
  | _ => decide

/-- A name of a scalar and one of a record, inside both kinds of brackets; when the brackets
cross there is nothing to read. -/
theorem parse_mapOfLists :
    parse "map<i32, [acme.Money]>" = .ok (.map (.scalar .int32) (.list (.named "acme.Money"))) ∧
      (∀ p : Phrase, p.text = "map<i32, [acme.Money]>".toList → p = mapOfLists) ∧
      ¬ ∃ p : Phrase, p.text = "map<i32, [acme.Money>]".toList := by
  obtain ⟨hreads, -, hone⟩ := parse_spec "map<i32, [acme.Money]>"
  obtain ⟨-, hrefused, -⟩ := parse_spec "map<i32, [acme.Money>]"
  refine ⟨(hreads _).2 ⟨mapOfLists, rfl, mapOfLists_means⟩, fun p hp => hone p mapOfLists hp rfl, ?_⟩
  exact hrefused.1 ⟨⟨"map<i32, [acme.Money>]", .textAfterArguments⟩, by decide +kernel⟩

end ServiceSchema.TypeExpr
