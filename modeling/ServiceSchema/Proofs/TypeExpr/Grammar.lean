/-
The grammar of type expressions, as derivations (`Phrase`): names, `[T]`, `list<T>`
and `map<K, V>`, with blank characters around each of them and before an angle
bracket. What a derivation means (`Phrase.Means`) is told from its form and from the
names that scalars have (`aliases`). The reader accepts a text exactly when it has a
derivation, and gives what that derivation means; no text has two (`parse_spec`).
-/
import ServiceSchema.Proofs.Text.Trim
import ServiceSchema.Proofs.TypeExpr.Split

namespace ServiceSchema.TypeExpr

/-! ## Derivations -/

/-- The characters with the `White_Space` property. -/
def White (c : Char) : Prop :=
  (0x09 ≤ c.toNat ∧ c.toNat ≤ 0x0D) ∨ (0x2000 ≤ c.toNat ∧ c.toNat ≤ 0x200A) ∨
    c.toNat ∈ [0x20, 0x85, 0xA0, 0x1680, 0x2028, 0x2029, 0x202F, 0x205F, 0x3000]

/-- Any number of blank characters. -/
abbrev Blanks := { cs : List Char // ∀ c ∈ cs, White c }

def Letter (c : Char) : Prop := ('A' ≤ c ∧ c ≤ 'Z') ∨ ('a' ≤ c ∧ c ≤ 'z')

def Digit (c : Char) : Prop := '0' ≤ c ∧ c ≤ '9'

/-- A letter or an underscore, then letters, digits, underscores and dots. -/
structure Name where
  first : Char
  rest : List Char
  first_ok : Letter first ∨ first = '_'
  rest_ok : ∀ c ∈ rest, Letter c ∨ Digit c ∨ c = '_' ∨ c = '.'

def Name.text (n : Name) : List Char := n.first :: n.rest

/-- A derivation of a type expression. -/
inductive Phrase where
  | name (before : Blanks) (name : Name) (after : Blanks)
  | bracketed (before : Blanks) (element : Phrase) (after : Blanks)
  | list (before gap : Blanks) (element : Phrase) (after : Blanks)
  | map (before gap : Blanks) (key value : Phrase) (after : Blanks)

namespace Phrase

/-- The text that is derived. -/
def text : Phrase → List Char
  | .name before n after => before ++ n.text ++ after
  | .bracketed before element after => before ++ '[' :: (element.text ++ [']']) ++ after
  | .list before gap element after =>
    before ++ (['l', 'i', 's', 't'] ++ gap ++ '<' :: (element.text ++ ['>'])) ++ after
  | .map before gap key value after =>
    before ++ (['m', 'a', 'p'] ++ gap ++ '<' :: (key.text ++ ',' :: value.text ++ ['>'])) ++ after

/-- The text without the blank characters around it. -/
def core : Phrase → List Char
  | .name _ n _ => n.text
  | .bracketed _ element _ => '[' :: (element.text ++ [']'])
  | .list _ gap element _ => ['l', 'i', 's', 't'] ++ gap ++ '<' :: (element.text ++ ['>'])
  | .map _ gap key value _ =>
    ['m', 'a', 'p'] ++ gap ++ '<' :: (key.text ++ ',' :: value.text ++ ['>'])

def before : Phrase → Blanks
  | .name b _ _ | .bracketed b _ _ | .list b _ _ _ | .map b _ _ _ _ => b

def after : Phrase → Blanks
  | .name _ _ a | .bracketed _ _ a | .list _ _ _ a | .map _ _ _ _ a => a

theorem text_eq (p : Phrase) : p.text = p.before ++ p.core ++ p.after := by
  cases p <;> rfl

end Phrase

/-! ## What a derivation means -/

/-- The names of a scalar. A kind beyond the known ones has none. -/
def aliases : Scalar → List String
  | .int8 => ["i8"]
  | .int16 => ["i16"]
  | .int32 => ["i32", "int32"]
  | .int64 => ["i64", "int64"]
  | .uint8 => ["u8"]
  | .uint16 => ["u16"]
  | .uint32 => ["u32", "uint32"]
  | .uint64 => ["u64", "uint64"]
  | .float32 => ["f32", "float"]
  | .float64 => ["f64", "double"]
  | .bool => ["bool"]
  | .text => ["string", "String"]
  | .timestamp => ["timestamp"]
  | .duration => ["duration"]
  | .other _ => []

/-- A name means the scalar that has it among its names, or else a record. -/
inductive Name.Means (n : Name) : TypeExpr → Prop
  | scalar {kind : Scalar} (h : String.ofList n.text ∈ aliases kind) : n.Means (.scalar kind)
  | record (h : ∀ kind, String.ofList n.text ∉ aliases kind) :
    n.Means (.named (String.ofList n.text))

/-- The type expression that a derivation means. -/
inductive Phrase.Means : Phrase → TypeExpr → Prop
  | name {before n after t} (h : n.Means t) : Means (.name before n after) t
  | bracketed {before element after t} (h : Means element t) :
    Means (.bracketed before element after) (.list t)
  | list {before gap element after t} (h : Means element t) :
    Means (.list before gap element after) (.list t)
  | map {before gap key value after k v} (hkey : Means key k) (hvalue : Means value v) :
    Means (.map before gap key value after) (.map k v)

theorem scalarNamed?_eq_some_iff {name : String} {kind : Scalar} :
    scalarNamed? name = some kind ↔ name ∈ aliases kind := by
  constructor
  · intro h
    unfold scalarNamed? at h
    split at h <;> cases h <;> decide
  · revert name
    cases kind with
    | other => exact nofun
    | _ => decide

theorem scalarNamed?_eq_none_iff {name : String} :
    scalarNamed? name = none ↔ ∀ kind, name ∉ aliases kind := by
  simp only [Option.eq_none_iff_forall_ne_some, ne_eq, scalarNamed?_eq_some_iff]

theorem Name.means_iff {n : Name} {t : TypeExpr} : n.Means t ↔ ofName (String.ofList n.text) = t := by
  constructor
  · intro h
    cases h with
    | scalar h => rw [ofName, scalarNamed?_eq_some_iff.2 h]
    | record h => rw [ofName, scalarNamed?_eq_none_iff.2 h]
  · rintro rfl
    rw [ofName]
    cases h : scalarNamed? (String.ofList n.text) with
    | some kind => exact .scalar (scalarNamed?_eq_some_iff.1 h)
    | none => exact .record (scalarNamed?_eq_none_iff.1 h)

theorem Phrase.exists_means (p : Phrase) : ∃ t, p.Means t := by
  induction p with
  | name _ n _ => exact ⟨_, .name (n.means_iff.2 rfl)⟩
  | bracketed _ _ _ ih =>
    obtain ⟨t, ht⟩ := ih
    exact ⟨_, .bracketed ht⟩
  | list _ _ _ _ ih =>
    obtain ⟨t, ht⟩ := ih
    exact ⟨_, .list ht⟩
  | map _ _ _ _ _ ihk ihv =>
    obtain ⟨k, hk⟩ := ihk
    obtain ⟨v, hv⟩ := ihv
    exact ⟨_, .map hk hv⟩

/-! ## Names and blank characters -/

theorem white_iff {c : Char} : White c ↔ Text.isBlank c = true := by
  simp only [White, List.mem_cons, List.not_mem_nil, or_false, Text.isBlank, Text.inRanges,
    Text.blankRanges, List.any_cons, List.any_nil, Bool.or_false, Bool.or_eq_true, Bool.and_eq_true,
    decide_eq_true_eq]
  omega

theorem Blanks.blank (b : Blanks) : Text.Blank b.val := fun c hc => white_iff.1 (b.property c hc)

def Blanks.ofBlank {cs : List Char} (h : Text.Blank cs) : Blanks :=
  ⟨cs, fun c hc => white_iff.2 (h c hc)⟩

theorem letter_iff {c : Char} : Letter c ↔ c.isAlpha = true := by
  have upper : c.isUpper = true ↔ 'A' ≤ c ∧ c ≤ 'Z' := decide_eq_true_iff
  have lower : c.isLower = true ↔ 'a' ≤ c ∧ c ≤ 'z' :=
    Bool.and_eq_true_iff.trans (and_congr decide_eq_true_iff decide_eq_true_iff)
  have alpha : c.isAlpha = (c.isUpper || c.isLower) := rfl
  rw [alpha, Bool.or_eq_true, upper, lower]
  rfl

theorem digit_iff {c : Char} : Digit c ↔ c.isDigit = true := by
  simp only [Digit, Char.isDigit, Char.le_def, decide_eq_true_eq, Bool.and_eq_true]

theorem startsName_iff {c : Char} : startsName c = true ↔ Letter c ∨ c = '_' := by
  simp [startsName, letter_iff]

theorem continuesName_iff {c : Char} :
    continuesName c = true ↔ Letter c ∨ Digit c ∨ c = '_' ∨ c = '.' := by
  simp [continuesName, letter_iff, digit_iff, Char.isAlphanum, or_assoc]

theorem isName_cons {c : Char} {rest : List Char} : isName (c :: rest) = true ↔
    (Letter c ∨ c = '_') ∧ ∀ d ∈ rest, Letter d ∨ Digit d ∨ d = '_' ∨ d = '.' := by
  simp only [isName, Bool.and_eq_true, List.all_eq_true, startsName_iff, continuesName_iff]

/-- The name that a text is. -/
def Name.ofText (c : Char) (rest : List Char) (h : isName (c :: rest) = true) : Name :=
  ⟨c, rest, (isName_cons.1 h).1, (isName_cons.1 h).2⟩

theorem isName_iff {cs : List Char} : isName cs = true ↔ ∃ n : Name, n.text = cs := by
  constructor
  · intro h
    cases cs with
    | nil => cases h
    | cons c rest => exact ⟨.ofText c rest h, rfl⟩
  · rintro ⟨n, rfl⟩
    exact isName_cons.2 ⟨n.first_ok, n.rest_ok⟩

theorem Name.continues {n : Name} {c : Char} (hc : c ∈ n.text) : continuesName c = true := by
  rcases List.mem_cons.1 hc with rfl | hc
  · rcases n.first_ok with h | h
    · exact continuesName_iff.2 (.inl h)
    · exact continuesName_iff.2 (.inr (.inr (.inl h)))
  · exact continuesName_iff.2 (n.rest_ok c hc)

/-! ## Characters of a name, blank characters and the signs are apart -/

theorem plain_of_continuesName {c : Char} (h : continuesName c = true) : Plain c := by
  simp only [Plain, opens, closes, Bool.or_eq_false_iff, beq_eq_false_iff_ne]
  refine ⟨⟨?_, ?_⟩, ⟨?_, ?_⟩, ?_⟩ <;> rintro rfl <;> exact absurd h (by decide)

theorem plain_of_isBlank {c : Char} (h : Text.isBlank c = true) : Plain c := by
  simp only [Plain, opens, closes, Bool.or_eq_false_iff, beq_eq_false_iff_ne]
  refine ⟨⟨?_, ?_⟩, ⟨?_, ?_⟩, ?_⟩ <;> rintro rfl <;> exact absurd h (by decide)

theorem isBlank_of_continuesName {c : Char} (h : continuesName c = true) : Text.isBlank c = false := by
  simp only [Text.isBlank, Text.inRanges, Text.blankRanges, List.any_cons, List.any_nil, Bool.or_false,
    Bool.or_eq_false_iff, Bool.and_eq_false_iff, decide_eq_false_iff_not]
  rcases continuesName_iff.1 h with (⟨h, h'⟩ | ⟨h, h'⟩) | ⟨h, h'⟩ | rfl | rfl
  · change 65 ≤ c.toNat at h
    change c.toNat ≤ 90 at h'
    omega
  · change 97 ≤ c.toNat at h
    change c.toNat ≤ 122 at h'
    omega
  · change 48 ≤ c.toNat at h
    change c.toNat ≤ 57 at h'
    omega
  · decide
  · decide

theorem Name.plain {n : Name} {c : Char} (hc : c ∈ n.text) : Plain c :=
  plain_of_continuesName (n.continues hc)

theorem Name.not_mem {n : Name} {c : Char} (hc : ¬ Plain c) : c ∉ n.text :=
  fun hm => hc (n.plain hm)

theorem Name.text_ne {n : Name} {c : Char} {cs : List Char} (hc : ¬ Plain c) (hm : c ∈ cs) :
    n.text ≠ cs :=
  fun h => n.not_mem hc (h ▸ hm)

theorem Blanks.not_mem {b : Blanks} {c : Char} (hc : ¬ Plain c) : c ∉ b.val :=
  fun hm => hc (plain_of_isBlank (b.blank c hm))

theorem not_plain_open : ¬ Plain '<' := by simp [Plain, opens]

theorem not_plain_close : ¬ Plain '>' := by simp [Plain, closes]

theorem not_plain_bracket : ¬ Plain '[' := by simp [Plain, opens]

theorem tight_of_continuesName {cs : List Char} (h : ∀ c ∈ cs, continuesName c = true) :
    Text.Tight cs :=
  ⟨fun c hc => isBlank_of_continuesName (h c (List.mem_of_mem_head? hc)),
    fun c hc => isBlank_of_continuesName (h c (List.mem_of_mem_getLast? hc))⟩

/-- What stands before the angle bracket of a composite type has none in it. -/
theorem not_mem_head {head : List Char} (h : head.all continuesName = true) (gap : Blanks) :
    '<' ∉ head ++ gap := by
  intro hm
  rcases List.mem_append.1 hm with hm | hm
  · exact not_plain_open (plain_of_continuesName (List.all_eq_true.1 h _ hm))
  · exact gap.not_mem not_plain_open hm

theorem passes_head {head : List Char} (h : head.all continuesName = true) (gap : Blanks)
    {least : Nat} : Passes least (head ++ gap) :=
  (passes_of_plain fun c hc => plain_of_continuesName (List.all_eq_true.1 h c hc)).append
    (passes_of_plain fun c hc => plain_of_isBlank (gap.blank c hc))

namespace Phrase

theorem tight_of_ends {a z : Char} (ha : Text.isBlank a = false) (hz : Text.isBlank z = false)
    (cs : List Char) : Text.Tight (a :: (cs ++ [z])) := by
  refine ⟨fun c hc => ?_, fun c hc => ?_⟩
  · simp only [List.head?_cons, Option.some.injEq] at hc
    exact hc ▸ ha
  · rw [← List.cons_append, List.getLast?_append] at hc
    simp only [List.getLast?_singleton, Option.some_or, Option.some.injEq] at hc
    exact hc ▸ hz

theorem tight_core (p : Phrase) : Text.Tight p.core := by
  cases p with
  | name _ n _ => exact tight_of_continuesName fun c hc => n.continues hc
  | bracketed _ element _ => exact tight_of_ends (by decide) (by decide) element.text
  | list _ gap element _ =>
    have h := tight_of_ends (a := 'l') (z := '>') (by decide) (by decide)
      (['i', 's', 't'] ++ gap ++ '<' :: element.text)
    simpa [core] using h
  | map _ gap key value _ =>
    have h := tight_of_ends (a := 'm') (z := '>') (by decide) (by decide)
      (['a', 'p'] ++ gap ++ '<' :: (key.text ++ ',' :: value.text))
    simpa [core] using h

theorem core_ne_nil (p : Phrase) : p.core ≠ [] := by
  cases p <;> simp [core, Name.text]

theorem trimmed_text (p : Phrase) : Text.trimmed p.text = p.core := by
  rw [text_eq, Text.trimmed_frame p.before.blank p.tight_core p.after.blank]

/-- A type expression is never cut at a comma. -/
theorem passes_text (p : Phrase) : Passes 0 p.text := by
  have frame : ∀ {b a : Blanks} {core : List Char}, Passes 0 core → Passes 0 (b ++ core ++ a) := by
    intro b a core hcore
    refine (Passes.append ?_ hcore).append ?_
    · exact passes_of_plain fun c hc => plain_of_isBlank (b.blank c hc)
    · exact passes_of_plain fun c hc => plain_of_isBlank (a.blank c hc)
  induction p with
  | name b n a => exact frame (passes_of_plain fun c hc => n.plain hc)
  | bracketed b element a ih => exact frame ((ih.mono (by omega)).enclose (by decide) (by decide))
  | list b gap element a ih =>
    refine frame ((passes_head (by decide) gap).append ?_)
    exact (ih.mono (by omega)).enclose (by decide) (by decide)
  | map b gap key value a ihk ihv =>
    refine frame ((passes_head (by decide) gap).append ?_)
    refine Passes.enclose (by decide) (by decide) ?_
    refine (ihk.mono (by omega)).append ?_
    exact (ihv.mono (by omega)).cons (by decide) (by decide) (fun _ => by omega)

/-! ## A text has one derivation -/

theorem frame_of_text_eq {p q : Phrase} (h : p.text = q.text) :
    p.before = q.before ∧ p.core = q.core ∧ p.after = q.after := by
  rw [text_eq p, text_eq q] at h
  obtain ⟨hb, hc, ha⟩ := Text.frame_inj p.before.blank p.tight_core p.after.blank
    q.before.blank q.tight_core q.after.blank p.core_ne_nil h
  exact ⟨Subtype.ext hb, hc, Subtype.ext ha⟩

/-- The first angle bracket shows where the head of a composite type ends. -/
theorem arguments_inj {head : List Char} {gap gap' : Blanks} {args args' : List Char}
    (hhead : head.all continuesName = true)
    (h : head ++ gap ++ '<' :: args = head ++ gap' ++ '<' :: args') : gap = gap' ∧ args = args' := by
  have hopen : ∀ {g : Blanks}, ∀ c ∈ head ++ g.val, (c != '<') = true := by
    intro g c hc
    simp only [bne_iff_ne, ne_eq]
    rintro rfl
    exact not_mem_head hhead g hc
  have hgap := congrArg (List.takeWhile (· != '<')) h
  rw [List.takeWhile_append_of_pos hopen, List.takeWhile_append_of_pos hopen] at hgap
  simp only [bne_self_eq_false, Bool.false_eq_true, not_false_eq_true, List.takeWhile_cons_of_neg,
    List.append_nil, List.append_cancel_left_eq] at hgap
  obtain rfl := Subtype.ext hgap
  exact ⟨rfl, by simpa using h⟩

theorem Name.ext_text {n m : Name} (h : n.text = m.text) : n = m := by
  obtain ⟨_, _, _, _⟩ := n
  obtain ⟨_, _, _, _⟩ := m
  simp only [Name.text, List.cons.injEq] at h
  obtain ⟨rfl, rfl⟩ := h
  rfl

theorem text_injective {p q : Phrase} (h : p.text = q.text) : p = q := by
  induction p generalizing q with
  | name b n a =>
    obtain ⟨hb, hc, ha⟩ := frame_of_text_eq h
    obtain rfl : b = q.before := hb
    obtain rfl : a = q.after := ha
    cases q with
    | name _ m _ => rw [Name.ext_text hc]; rfl
    | bracketed => exact absurd hc (n.text_ne not_plain_bracket (by simp [core]))
    | list | map => exact absurd hc (n.text_ne not_plain_open (by simp [core]))
  | bracketed b element a ih =>
    obtain ⟨hb, hc, ha⟩ := frame_of_text_eq h
    obtain rfl : b = q.before := hb
    obtain rfl : a = q.after := ha
    cases q with
    | name _ m _ => exact absurd hc.symm (m.text_ne not_plain_bracket (by simp [core]))
    | bracketed _ other _ =>
      simp only [core, List.cons.injEq, true_and, List.append_cancel_right_eq] at hc
      rw [ih hc]
      rfl
    | list | map => simp [core] at hc
  | list b gap element a ih =>
    obtain ⟨hb, hc, ha⟩ := frame_of_text_eq h
    obtain rfl : b = q.before := hb
    obtain rfl : a = q.after := ha
    cases q with
    | name _ m _ => exact absurd hc.symm (m.text_ne not_plain_open (by simp [core]))
    | bracketed | map => simp [core] at hc
    | list _ gap' other _ =>
      obtain ⟨rfl, hargs⟩ := arguments_inj (by decide) hc
      rw [ih (List.append_cancel_right hargs)]
      rfl
  | map b gap key value a ihk ihv =>
    obtain ⟨hb, hc, ha⟩ := frame_of_text_eq h
    obtain rfl : b = q.before := hb
    obtain rfl : a = q.after := ha
    cases q with
    | name _ m _ => exact absurd hc.symm (m.text_ne not_plain_open (by simp [core]))
    | bracketed | list => simp [core] at hc
    | map _ gap' key' value' _ =>
      obtain ⟨rfl, hargs⟩ := arguments_inj (by decide) hc
      -- Both derivations cut the arguments where the splitter does.
      have hsplit := key.passes_text.split_two value.passes_text
      rw [List.append_cancel_right hargs, key'.passes_text.split_two value'.passes_text] at hsplit
      simp only [Option.some.injEq, List.cons.injEq, and_true] at hsplit
      rw [ihk hsplit.1.symm, ihv hsplit.2.symm]
      rfl

end Phrase

end ServiceSchema.TypeExpr
