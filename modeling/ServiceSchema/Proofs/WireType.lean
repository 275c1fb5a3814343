/-
A wire type can be read in one way (`wireType_eq_iff`). Nothing is escaped in it, and a record may
well be called `map` or `repeated`, or have no name at all; but as long as no name has a blank, a
comma or an angle bracket in it, two shapes that are written alike are nested in the same way, and
have names that are written alike at their leaves.

No brackets are counted. A wire type begins with a word, and the first sign after the word shows
what kind of shape it is: a blank follows `repeated`, an opening bracket follows `map`, and after a
leaf comes what follows the whole. So it can be told from any text that starts with a comma or a
closing bracket (`wireType_append_inj`), which is all that ever comes after a key or a value.
-/
import ServiceSchema.Proofs.Keyed.Table
import ServiceSchema.Proofs.Text.Cut
import ServiceSchema.WireType

namespace ServiceSchema

open Text

/-- The characters that take a wire type apart. -/
def wireSigns : List Char := [' ', ',', '<', '>']

/-- What may come after a wire type within another one. -/
def Follows (cs : List Char) : Prop := ∀ c, cs.head? = some c → c ∈ [',', '>']

theorem Follows.head_mem {cs : List Char} (h : Follows cs) {c : Char} (hc : cs.head? = some c) :
    c ∈ wireSigns :=
  (show [',', '>'] ⊆ wireSigns by decide) (h c hc)

theorem Follows.ne_cons {cs rest : List Char} {c : Char} (h : Follows cs) (hc : c ∉ [',', '>']) :
    cs ≠ c :: rest := by
  rintro rfl
  exact hc (h c rfl)

namespace Shape

/-- A scalar or a record. -/
def isLeaf : Shape → Bool
  | .scalar _ | .record _ => true
  | .sequence _ | .map _ _ => false

/-- The names in a shape that somebody has chosen: of its records, and of scalars that only their
names tell. -/
def names : Shape → List String
  | .scalar (.other name) => [name]
  | .scalar _ => []
  | .record r => [r.name]
  | .sequence element => element.names
  | .map key value => key.names ++ value.names

/-- Two shapes have the same nesting of sequences and maps, and the leaves at each position have
the same name in a schema. -/
inductive SameReading (known : WellKnownTypes) : Shape → Shape → Prop
  | leaf {s t : Shape} : s.isLeaf = true → t.isLeaf = true → s.wireType known = t.wireType known →
      SameReading known s t
  | sequence {s t : Shape} : SameReading known s t → SameReading known (.sequence s) (.sequence t)
  | map {k v k' v' : Shape} : SameReading known k k' → SameReading known v v' →
      SameReading known (.map k v) (.map k' v')

variable {known : WellKnownTypes} {s t : Shape}

/-! ## Words and signs -/

/-- The word that the text of a shape begins with. -/
def word (known : WellKnownTypes) : Shape → String
  | .scalar kind => kind.wireType
  | .record r => r.wireType known
  | .sequence _ => "repeated"
  | .map _ _ => "map"

/-- What comes after that word, when a text follows the whole. -/
def afterWord (known : WellKnownTypes) : Shape → List Char → List Char
  | .scalar _, rest | .record _, rest => rest
  | .sequence element, rest => ' ' :: ((element.wireType known).toList ++ rest)
  | .map key value, rest =>
    '<' :: ((key.wireType known).toList ++
      ',' :: ' ' :: ((value.wireType known).toList ++ '>' :: rest))

theorem wireType_append (s : Shape) (rest : List Char) :
    (s.wireType known).toList ++ rest = (s.word known).toList ++ s.afterWord known rest := by
  cases s with
  | scalar | record => rw [wireType, word, afterWord]
  | sequence | map => simp [wireType, word, afterWord]

theorem lacks_scalar {kind : Scalar} (h : ∀ name ∈ (Shape.scalar kind).names, Lacks wireSigns name) :
    Lacks wireSigns kind.wireType := by
  cases kind with
  | other name => exact h name (by simp [names])
  | _ => rw [Scalar.wireType]; decide

theorem lacks_record (hknown : ∀ e ∈ known.entries, Lacks wireSigns e.2.wireType) {r : Record}
    (h : ∀ name ∈ (Shape.record r).names, Lacks wireSigns name) :
    Lacks wireSigns (r.wireType known) := by
  rw [Record.wireType]
  split
  · rename_i entry hentry
    exact hknown _ (Table.mem_of_get? hentry)
  · exact h r.name (by simp [names])

/-- A word has no sign in it. -/
theorem lacks_word (hknown : ∀ e ∈ known.entries, Lacks wireSigns e.2.wireType)
    (hs : ∀ name ∈ s.names, Lacks wireSigns name) : Lacks wireSigns (s.word known) := by
  cases s with
  | scalar kind => exact lacks_scalar hs
  | record r => exact lacks_record hknown hs
  | sequence | map =>
    rw [word]
    decide

/-- What comes after a word begins with a sign. -/
theorem head_afterWord {rest : List Char} (hrest : Follows rest) :
    ∀ c, (s.afterWord known rest).head? = some c → c ∈ wireSigns := by
  intro c hc
  cases s with
  | scalar | record => exact hrest.head_mem hc
  | sequence | map =>
    cases hc
    decide

/-! ## Reading -/

/-- The text of a shape can be told from what follows it. -/
theorem wireType_append_inj (hknown : ∀ e ∈ known.entries, Lacks wireSigns e.2.wireType) :
    ∀ (s t : Shape) {x y : List Char}, (∀ name ∈ s.names, Lacks wireSigns name) →
      (∀ name ∈ t.names, Lacks wireSigns name) → Follows x → Follows y →
      (s.wireType known).toList ++ x = (t.wireType known).toList ++ y →
      SameReading known s t ∧ x = y
  | s, t, x, y, hs, ht, hx, hy, h => by
    rw [wireType_append, wireType_append] at h
    obtain ⟨hword, hafter⟩ := cut_at_sign (lacks_word hknown hs) (lacks_word hknown ht)
      (head_afterWord hx) (head_afterWord hy) h
    cases s with
    | scalar | record =>
      cases t with
      | scalar | record => exact ⟨.leaf rfl rfl (String.toList_injective hword), hafter⟩
      | sequence | map => exact absurd hafter (hx.ne_cons (by decide))
    | sequence element =>
      cases t with
      | scalar | record => exact absurd hafter.symm (hy.ne_cons (by decide))
      | sequence other =>
        obtain ⟨hread, hrest⟩ := wireType_append_inj hknown element other hs ht hx hy
          (List.cons.inj hafter).2
        exact ⟨.sequence hread, hrest⟩
      | map => exact absurd (List.cons.inj hafter).1 (by decide)
    | map key value =>
      cases t with
      | scalar | record => exact absurd hafter.symm (hy.ne_cons (by decide))
      | sequence => exact absurd (List.cons.inj hafter).1 (by decide)
      | map key' value' =>
        have hcomma : ∀ rest, Follows (',' :: rest) := by simp [Follows]
        have hclose : ∀ rest, Follows ('>' :: rest) := by simp [Follows]
        simp only [names, List.forall_mem_append] at hs ht
        obtain ⟨hkey, hrest⟩ := wireType_append_inj hknown key key' hs.1 ht.1 (hcomma _) (hcomma _)
          (List.cons.inj hafter).2
        simp only [List.cons.injEq, true_and] at hrest
        obtain ⟨hvalue, hrest⟩ := wireType_append_inj hknown value value' hs.2 ht.2 (hclose _)
          (hclose _) hrest
        exact ⟨.map hkey hvalue, (List.cons.inj hrest).2⟩

theorem SameReading.wireType_eq (h : SameReading known s t) : s.wireType known = t.wireType known := by
  induction h with
  | leaf _ _ h => exact h
  | sequence _ ih => rw [wireType, wireType, ih]
  | map _ _ ihk ihv => rw [wireType, wireType, ihk, ihv]

/-- **A wire type is read in one way.** Under a table that gives names without signs, two shapes
whose own names have no signs in them either are written alike exactly when they are nested alike
and the leaves at each position have the same name in a schema. -/
theorem wireType_eq_iff (hknown : ∀ e ∈ known.entries, Lacks wireSigns e.2.wireType)
    (hs : ∀ name ∈ s.names, Lacks wireSigns name) (ht : ∀ name ∈ t.names, Lacks wireSigns name) :
    s.wireType known = t.wireType known ↔ SameReading known s t := by
  have hnil : Follows [] := by simp [Follows]
  constructor
  · intro h
    exact (wireType_append_inj hknown s t hs ht hnil hnil (by rw [h])).1
  · exact SameReading.wireType_eq

/-! ## Names that look like nesting -/

/-- A map with keys called `map`, and sequences of what is called `repeated` for values. -/
def sampleMap (leaf : String → Shape) : Shape := .map (leaf "map") (.sequence (leaf "repeated"))

/-- The map between records, and between scalars of the same names. -/
theorem wireType_eq_sampleMap :
    (∀ e ∈ WellKnownTypes.standard.entries, Lacks wireSigns e.2.wireType) ∧
      (∀ name ∈ (sampleMap (.record <| .bare ·)).names, Lacks wireSigns name) ∧
      (∀ name ∈ (sampleMap (.scalar <| .other ·)).names, Lacks wireSigns name) ∧
      (sampleMap (.record <| .bare ·)).wireType .standard = "map<map, repeated repeated>" ∧
      SameReading .standard (sampleMap (.record <| .bare ·)) (sampleMap (.scalar <| .other ·)) := by
  have hknown : ∀ e ∈ WellKnownTypes.standard.entries, Lacks wireSigns e.2.wireType := by decide
  have hrecord : ∀ name ∈ (sampleMap (.record <| .bare ·)).names, Lacks wireSigns name := by decide
  have hscalar : ∀ name ∈ (sampleMap (.scalar <| .other ·)).names, Lacks wireSigns name := by decide
  have htext : (sampleMap (.record <| .bare ·)).wireType .standard = "map<map, repeated repeated>" := by
    decide +kernel
  have htext' : (sampleMap (.scalar <| .other ·)).wireType .standard = "map<map, repeated repeated>" := by
    decide +kernel
  exact ⟨hknown, hrecord, hscalar, htext,
    (wireType_eq_iff hknown hrecord hscalar).1 (htext.trans htext'.symm)⟩

end Shape

end ServiceSchema
