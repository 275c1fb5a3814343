/-
A JSON text determines its value (`pretty_inj`), as long as all numbers in it are integers.

A text is read from its first character, which shows what kind of value it is (`kindOf_head`). Strings
are quoted, and no escape begins with a quote or with another escape; words and integers end where a
comma or a line break comes, and nothing else comes after a value (`Ends`). So a value can be told from
what follows it (`told`), given that the lines between two brackets can (`block_append_inj`).
-/
import Mathlib.Data.List.Basic
import Std.Data.String.ToInt
import ServiceSchema.Json
import ServiceSchema.Proofs.Keyed.Table
import ServiceSchema.Proofs.Text.Cut

namespace ServiceSchema

open Text

namespace Json

/-! ## Strings -/

/-- The characters that do not stand as they are. -/
def escaped : List Char := '"' :: '\\' :: (List.range 0x20).map Char.ofNat

theorem escape_of_not_mem {c : Char} (h : c ∉ escaped) : escape c = c.toString := by
  have hcontrol : ¬ c.toNat < 0x20 := fun hlt =>
    h (.tail _ (.tail _ (List.mem_map.2 ⟨c.toNat, List.mem_range.2 hlt, Char.ofNat_toNat c⟩)))
  unfold escape
  split
  iterate 5 exact absurd (by decide) h
  rw [if_neg (by omega), if_neg (by omega), if_neg hcontrol]

theorem toList_escape_of_not_mem {c : Char} (h : c ∉ escaped) : (escape c).toList = [c] := by
  rw [escape_of_not_mem h, Char.toString_eq_singleton, String.toList_singleton]

theorem head?_escape (c : Char) (s : List Char) :
    ((escape c).toList ++ s).head? = some (if c ∈ escaped then '\\' else c) := by
  split
  · rename_i hc
    have hall : escaped.all (fun c => (escape c).toList.head? == some '\\') = true := by
      decide +kernel
    rw [List.head?_append, eq_of_beq (List.all_eq_true.1 hall c hc), Option.some_or]
  · rename_i hc
    rw [toList_escape_of_not_mem hc, List.singleton_append, List.head?_cons]

theorem eq_of_prefix_escape {c d : Char} (hc : c ∈ escaped) (hd : d ∈ escaped)
    (h : (escape c).toList <+: (escape d).toList) : c = d := by
  have hall : escaped.all (fun c => escaped.all fun d =>
      !(escape c).toList.isPrefixOf (escape d).toList || c == d) = true := by decide +kernel
  have hcd := List.all_eq_true.1 (List.all_eq_true.1 hall c hc) d hd
  rw [List.isPrefixOf_iff_prefix.2 h] at hcd
  exact eq_of_beq hcd

theorem prefixFree_escape : PrefixFree (fun _ => True) fun c => (escape c).toList := by
  intro c d _ _ s t h
  have hhead := congrArg List.head? h
  simp only [head?_escape, Option.some.injEq] at hhead
  by_cases hc : c ∈ escaped <;> by_cases hd : d ∈ escaped
  · have hcd : c = d := by
      rcases List.prefix_or_prefix_of_prefix (List.prefix_append _ s) (h ▸ List.prefix_append _ t)
        with hprefix | hprefix
      · exact eq_of_prefix_escape hc hd hprefix
      · exact (eq_of_prefix_escape hd hc hprefix).symm
    subst hcd
    exact ⟨rfl, List.append_cancel_left h⟩
  · rw [if_pos hc, if_neg hd] at hhead
    subst hhead
    exact absurd (by decide) hd
  · rw [if_neg hc, if_pos hd] at hhead
    subst hhead
    exact absurd (by decide) hc
  · simpa [toList_escape_of_not_mem hc, toList_escape_of_not_mem hd] using h

theorem quoted_append_inj {s t : String} {x y : List Char}
    (h : (quoted s).toList ++ x = (quoted t).toList ++ y) : s = t ∧ x = y := by
  have hquoted (s : String) (x : List Char) : (quoted s).toList ++ x =
      '"' :: (s.toList.flatMap (fun c => (escape c).toList) ++ '"' :: x) := by
    simp [quoted, String.toList_join, List.flatMap_map]
  have hquote (x r : List Char) (c : Char) : '"' :: x ≠ (escape c).toList ++ r := by
    intro h
    have hhead := congrArg List.head? h
    rw [head?_escape, List.head?_cons, Option.some.injEq] at hhead
    split at hhead
    · exact absurd hhead (by decide)
    · rename_i hc
      subst hhead
      exact absurd (by decide) hc
  rw [hquoted, hquoted] at h
  obtain ⟨hst, hxy⟩ := prefixFree_escape.flatMap_inj (fun _ _ => trivial) (fun _ _ => trivial)
    (fun c r => hquote x r c) (fun c r => hquote y r c) (List.cons.inj h).2
  exact ⟨String.toList_inj.1 hst, (List.cons.inj hxy).2⟩

/-! ## Integers -/

theorem mem_toString_int {n : Int} {c : Char} (hc : c ∈ (toString n).toList) :
    c = '-' ∨ c.isDigit = true := by
  rw [Int.toString_eq_repr] at hc
  cases n with
  | ofNat k =>
    rw [Int.repr, Nat.repr_eq_ofList_toDigits, String.toList_ofList] at hc
    exact .inr (Nat.isDigit_of_mem_toDigits (by decide) (by decide) hc)
  | negSucc k =>
    have hc : c = '-' ∨ c ∈ Nat.toDigits 10 (k + 1) := by
      simpa [Int.repr, Nat.repr_eq_ofList_toDigits] using hc
    exact hc.imp_right (Nat.isDigit_of_mem_toDigits (by decide) (by decide))

theorem exists_toString_int (n : Int) : ∃ c cs, (toString n).toList = c :: cs := by
  refine List.exists_cons_of_ne_nil ?_
  cases n with
  | ofNat k =>
    rw [Int.toString_eq_repr, Int.repr, Nat.repr_eq_ofList_toDigits, String.toList_ofList]
    exact Nat.toDigits_ne_nil
  | negSucc k =>
    rw [Int.toString_eq_repr, Int.repr, String.toList_append]
    exact List.cons_ne_nil _ _

/-- What may come after a value. -/
def Ends (cs : List Char) : Prop := ∀ c, cs.head? = some c → c ∈ [',', '\n']

theorem integer_append_inj {n m : Int} {s t : List Char} (hs : Ends s) (ht : Ends t)
    (h : (toString n).toList ++ s = (toString m).toList ++ t) : n = m ∧ s = t := by
  have hlacks (n : Int) : ∀ c ∈ (toString n).toList, c ∉ [',', '\n'] := by
    intro c hc hmem
    rcases mem_toString_int hc with rfl | hdigit
    · exact absurd hmem (by decide)
    · rcases List.mem_pair.1 hmem with rfl | rfl <;> exact absurd hdigit (by decide)
  obtain ⟨htext, hst⟩ := cut_at_sign (hlacks n) (hlacks m) hs ht h
  exact ⟨Int.repr_inj.1 (String.toList_inj.1 htext), hst⟩

/-! ## Lines between brackets -/

variable {α : Type} {P : α → Prop} {text : α → String} {level : Nat} {xs ys : List α}
  {s t : List Char}

/-- The text of a thing can be told from what comes after it. -/
def Told (P : α → Prop) (text : α → String) (a : α) : Prop :=
  ∀ ⦃b⦄, P b → ∀ ⦃s t⦄, Ends s → Ends t → (text a).toList ++ s = (text b).toList ++ t → a = b ∧ s = t

/-- What comes before each line but the first. -/
def moreLines (level : Nat) (lines : List String) : List Char :=
  lines.flatMap fun l => ("," ++ newline level).toList ++ l.toList

theorem toList_block_cons (level : Nat) (opening closing l : String) (ls : List String) :
    (block level opening closing (l :: ls)).toList =
      opening.toList ++ (newline (level + 1)).toList ++ l.toList ++ moreLines (level + 1) ls ++
        (newline level).toList ++ closing.toList := by
  simp only [block, List.isEmpty_cons, Bool.false_eq_true, if_false, String.toList_append,
    toList_intercalate_cons, moreLines, List.append_assoc]

theorem head?_newline (level : Nat) (s : List Char) :
    ((newline level).toList ++ s).head? = some '\n' := by
  simp [newline]

theorem moreLines_append_inj (hxs : ∀ a ∈ xs, Told P text a) (hys : ∀ b ∈ ys, P b)
    (hs : s.head? = some '\n') (ht : t.head? = some '\n')
    (h : moreLines level (xs.map text) ++ s = moreLines level (ys.map text) ++ t) :
    xs = ys ∧ s = t := by
  have hcons (l : String) (ls : List String) (s : List Char) : moreLines level (l :: ls) ++ s =
      ',' :: ((newline level).toList ++ (l.toList ++ (moreLines level ls ++ s))) := by
    simp [moreLines]
  have hends {ls : List String} {s : List Char} (hs : s.head? = some '\n') :
      Ends (moreLines level ls ++ s) := by
    intro c hc
    cases ls with
    | nil =>
      obtain rfl := Option.some.inj (hs.symm.trans hc)
      decide
    | cons l ls =>
      rw [hcons] at hc
      obtain rfl := Option.some.inj hc
      decide
  induction xs generalizing ys with
  | nil =>
    cases ys with
    | nil => exact ⟨rfl, h⟩
    | cons b ys =>
      rw [List.map_cons, hcons] at h
      exact absurd (hs.symm.trans (congrArg List.head? h)) (by simp)
  | cons a xs ih =>
    cases ys with
    | nil =>
      rw [List.map_cons, hcons] at h
      exact absurd (ht.symm.trans (congrArg List.head? h.symm)) (by simp)
    | cons b ys =>
      rw [List.map_cons, List.map_cons, hcons, hcons] at h
      obtain ⟨rfl, hrest⟩ := hxs a List.mem_cons_self (hys b List.mem_cons_self) (hends hs) (hends ht)
        (List.append_cancel_left (List.cons.inj h).2)
      obtain ⟨rfl, rfl⟩ := ih (fun c hc => hxs c (List.mem_cons_of_mem _ hc))
        (fun c hc => hys c (List.mem_cons_of_mem _ hc)) hrest
      exact ⟨rfl, rfl⟩

theorem toList_block_nil (level : Nat) (opening closing : String) :
    (block level opening closing []).toList = opening.toList ++ closing.toList := by
  rw [block, List.isEmpty_nil, if_pos rfl, String.toList_append]

theorem head?_block {opening closing : String} {c : Char} {lines : List String}
    (hopening : opening.toList.head? = some c) :
    ((block level opening closing lines).toList ++ s).head? = some c := by
  cases lines with
  | nil => simp [toList_block_nil, hopening]
  | cons l ls => simp [toList_block_cons, hopening]

theorem block_append_inj {opening closing : String} {c : Char} (hxs : ∀ a ∈ xs, Told P text a)
    (hys : ∀ b ∈ ys, P b) (hclosing : closing.toList.head? = some c) (hc : c ≠ '\n')
    (h : (block level opening closing (xs.map text)).toList ++ s =
      (block level opening closing (ys.map text)).toList ++ t) : xs = ys ∧ s = t := by
  have hbreak {r r' : List Char} : closing.toList ++ r ≠ (newline (level + 1)).toList ++ r' := by
    intro heq
    have hhead := congrArg List.head? heq
    rw [head?_newline, List.head?_append, hclosing, Option.some_or] at hhead
    exact hc (Option.some.inj hhead)
  cases xs with
  | nil =>
    cases ys with
    | nil => exact ⟨rfl, List.append_cancel_left h⟩
    | cons b ys =>
      rw [List.map_nil, List.map_cons, toList_block_nil, toList_block_cons] at h
      simp only [List.append_assoc] at h
      exact absurd (List.append_cancel_left h) hbreak
  | cons a xs =>
    cases ys with
    | nil =>
      rw [List.map_nil, List.map_cons, toList_block_nil, toList_block_cons] at h
      simp only [List.append_assoc] at h
      exact absurd (List.append_cancel_left h).symm hbreak
    | cons b ys =>
      rw [List.map_cons, List.map_cons, toList_block_cons, toList_block_cons] at h
      simp only [List.append_assoc] at h
      have hlines := List.append_cancel_left (List.append_cancel_left h)
      -- With a comma put before the first line as well, all lines are alike.
      have hmore : moreLines (level + 1) ((a :: xs).map text) ++
            ((newline level).toList ++ (closing.toList ++ s)) =
          moreLines (level + 1) ((b :: ys).map text) ++
            ((newline level).toList ++ (closing.toList ++ t)) := by
        simpa [moreLines] using hlines
      obtain ⟨hxy, hrest⟩ :=
        moreLines_append_inj hxs hys (head?_newline level _) (head?_newline level _) hmore
      exact ⟨hxy, List.append_cancel_left (List.append_cancel_left hrest)⟩

/-! ## Values -/

mutual

/-- All numbers in a value are integers. -/
def Integral : Json → Prop
  | .decimal _ => False
  | .array items => IntegralItems items
  | .object entries => IntegralEntries entries
  | _ => True

def IntegralItems : List Json → Prop
  | [] => True
  | item :: rest => item.Integral ∧ IntegralItems rest

def IntegralEntries : List (String × Json) → Prop
  | [] => True
  | (_, value) :: rest => value.Integral ∧ IntegralEntries rest

end

/-- The first character of the text of a value, or another one for the words and digits of a kind. -/
def kind : Json → Char
  | .null => 'n'
  | .bool _ => 't'
  | .integer _ => '0'
  | .decimal _ => '.'
  | .text _ => '"'
  | .array _ => '['
  | .object _ => '\x7b'

def kindOf (c : Char) : Char :=
  if c = 'f' then 't' else if c = '-' || c.isDigit then '0' else c

theorem indentedItems_eq_map (level : Nat) (items : List Json) :
    indentedItems level items = items.map (indented level) := by
  induction items with
  | nil => rfl
  | cons item rest ih => rw [indentedItems, ih, List.map_cons]

theorem indentedEntries_eq_map (level : Nat) (entries : List (String × Json)) :
    indentedEntries level entries =
      entries.map fun e => quoted e.1 ++ ": " ++ e.2.indented level := by
  induction entries with
  | nil => rfl
  | cons e rest ih => rw [indentedEntries, ih, List.map_cons]

theorem integralItems_iff {items : List Json} :
    IntegralItems items ↔ ∀ item ∈ items, item.Integral := by
  induction items with
  | nil => simp [IntegralItems]
  | cons item rest ih => rw [IntegralItems, ih, List.forall_mem_cons]

theorem integralEntries_iff {entries : List (String × Json)} :
    IntegralEntries entries ↔ ∀ e ∈ entries, e.2.Integral := by
  induction entries with
  | nil => simp [IntegralEntries]
  | cons e rest ih => rw [IntegralEntries, ih, List.forall_mem_cons]

mutual

theorem integral_sorted : ∀ {v : Json}, v.Integral → v.sorted.Integral
  | .null, _ | .bool _, _ | .integer _, _ | .text _, _ => trivial
  | .decimal _, h => h
  | .array _, h => integral_sortedItems h
  | .object _, h => integral_sortedEntries h

theorem integral_sortedItems : ∀ {items : List Json}, IntegralItems items →
    IntegralItems (sortedItems items)
  | [], _ => trivial
  | _ :: _, h => ⟨integral_sorted h.1, integral_sortedItems h.2⟩

theorem integral_sortedEntries : ∀ {entries : List (String × Json)}, IntegralEntries entries →
    IntegralEntries (sortedEntries entries)
  | [], _ => trivial
  | (_, _) :: _, h => by
    rw [sortedEntries, integralEntries_iff]
    intro e he
    rcases Keyed.mem_insertNew he with rfl | he
    · exact integral_sorted h.1
    · exact integralEntries_iff.1 (integral_sortedEntries h.2) e he

end

theorem kindOf_head {v : Json} (hv : v.Integral) (level : Nat) (s : List Char) :
    ((v.indented level).toList ++ s).head?.map kindOf = some v.kind := by
  cases v with
  | null => simp [indented, kind, kindOf]
  | bool b => cases b <;> simp [indented, boolText, kind, kindOf]
  | integer n =>
    obtain ⟨c, cs, hn⟩ := exists_toString_int n
    have hc : c = '-' ∨ c.isDigit = true := mem_toString_int (by rw [hn]; exact List.mem_cons_self)
    have hf : c ≠ 'f' := by
      rintro rfl
      exact absurd hc (by decide)
    rw [indented, hn, List.cons_append, List.head?_cons]
    simp [kind, kindOf, hf, hc]
  | decimal digits => exact hv.elim
  | text s => simp [indented, quoted, kind, kindOf]
  | array | object =>
    rw [indented, head?_block rfl]
    rfl

theorem told_entry {key : String} {value : Json} (h : Told Integral (indented level) value) :
    Told (fun e : String × Json => e.2.Integral)
      (fun e => quoted e.1 ++ ": " ++ e.2.indented level) (key, value) := by
  rintro ⟨key', value'⟩ hvalue' s t hs ht heq
  simp only [String.toList_append, List.append_assoc] at heq
  obtain ⟨rfl, hafter⟩ := quoted_append_inj heq
  obtain ⟨rfl, hst⟩ := h hvalue' hs ht (List.append_cancel_left hafter)
  exact ⟨rfl, hst⟩

mutual

/-- The text of a value can be told from what comes after it. -/
theorem told (level : Nat) : ∀ v : Json, v.Integral → Told Integral (indented level) v
  | v, hv, w, hw, s, t, hs, ht, h => by
    have hkind : v.kind = w.kind := by
      rw [← Option.some.injEq, ← kindOf_head hv level s, h, kindOf_head hw level t]
    cases v with
    | null =>
      cases w with
      | null => exact ⟨rfl, List.append_cancel_left h⟩
      | _ => cases hkind
    | bool b =>
      cases w with
      | bool c =>
        cases b <;> cases c <;> simp_all [indented, boolText]
      | _ => cases hkind
    | integer n =>
      cases w with
      | integer m =>
        obtain ⟨rfl, hst⟩ := integer_append_inj hs ht h
        exact ⟨rfl, hst⟩
      | _ => cases hkind
    | decimal digits => exact hv.elim
    | text a =>
      cases w with
      | text b =>
        obtain ⟨rfl, hst⟩ := quoted_append_inj h
        exact ⟨rfl, hst⟩
      | _ => cases hkind
    | array items =>
      cases w with
      | array others =>
        rw [indented, indented, indentedItems_eq_map, indentedItems_eq_map] at h
        obtain ⟨rfl, hst⟩ := block_append_inj (told_items (level + 1) items hv) (integralItems_iff.1 hw) rfl
          (by decide) h
        exact ⟨rfl, hst⟩
      | _ => cases hkind
    | object entries =>
      cases w with
      | object others =>
        rw [indented, indented, indentedEntries_eq_map, indentedEntries_eq_map] at h
        obtain ⟨rfl, hst⟩ := block_append_inj (told_entries (level + 1) entries hv) (integralEntries_iff.1 hw) rfl
          (by decide) h
        exact ⟨rfl, hst⟩
      | _ => cases hkind

theorem told_items (level : Nat) : ∀ items : List Json, IntegralItems items →
    ∀ item ∈ items, Told Integral (indented level) item
  | [], _ => nofun
  | item :: rest, h => List.forall_mem_cons.2 ⟨told level item h.1, told_items level rest h.2⟩

theorem told_entries (level : Nat) : ∀ entries : List (String × Json), IntegralEntries entries →
    ∀ e ∈ entries, Told (fun e : String × Json => e.2.Integral)
      (fun e => quoted e.1 ++ ": " ++ e.2.indented level) e
  | [], _ => nofun
  | (_, value) :: rest, h =>
    List.forall_mem_cons.2 ⟨told_entry (told level value h.1), told_entries level rest h.2⟩

end

/-- **A text has one value.** Two values whose numbers are integers are printed alike only if they are
the same. -/
theorem pretty_inj {v w : Json} (hv : v.Integral) (hw : w.Integral) : v.pretty = w.pretty ↔ v = w := by
  constructor
  · intro h
    refine (told 0 v hv hw (s := []) (t := []) nofun nofun ?_).1
    exact congrArg (·.toList ++ []) h
  · rintro rfl
    rfl

end Json

end ServiceSchema
