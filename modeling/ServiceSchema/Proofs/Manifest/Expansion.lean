/-
Resolving without keeping anything: a name is expanded afresh from its declaration
wherever it stands, under the same check for names that are under way.

An expansion that succeeds tells everything about what it passes through: each name
that can be reached from it has been expanded in turn, so it is not under way
(`Expands.not_mem`), does not reach itself (`Expands.acyclic`), and has an expansion of
its own (`Expands.reach`). In the other direction, a name expands when nothing it
reaches stands in the way (`expands_of_sound`). Hence what is under way matters only
where it is met (`expandName_of_apart`).
-/
import Mathlib.Logic.Relation
import ServiceSchema.Manifest.Resolve
import ServiceSchema.Proofs.Except

namespace ServiceSchema

open Relation

/-! ## Shapes, given what names stand for -/

namespace TypeExpr

/-- The record names in a type expression, from left to right. -/
def names : TypeExpr → List String
  | .scalar _ => []
  | .list element => element.names
  | .map key value => key.names ++ value.names
  | .named name => [name]

/-- The shape of a type expression, when `record` tells what names stand for. -/
def shape (record : String → Except ManifestError Record) : TypeExpr → Except ManifestError Shape
  | .scalar kind => .ok (.scalar kind)
  | .list element => do
    let element ← element.shape record
    return .sequence element
  | .map key value => do
    let key ← key.shape record
    let value ← value.shape record
    return .map key value
  | .named name => do
    let r ← record name
    return .record r

variable {f g : String → Except ManifestError Record}

theorem shape_congr {e : TypeExpr} (h : ∀ n ∈ e.names, f n = g n) : e.shape f = e.shape g := by
  induction e with
  | scalar => rfl
  | list element ih => rw [shape, shape, ih h]
  | map key value ihk ihv =>
    rw [shape, shape, ihk fun n hn => h n (by simp [names, hn]),
      ihv fun n hn => h n (by simp [names, hn])]
  | named name => rw [shape, shape, h name (by simp [names])]

/-- There is a shape exactly when each name stands for a record. -/
theorem exists_shape_iff {e : TypeExpr} :
    (∃ s, e.shape f = .ok s) ↔ ∀ n ∈ e.names, ∃ r, f n = .ok r := by
  induction e with
  | scalar => simp [shape, names]
  | list element ih =>
    rw [names, ← ih, shape]
    constructor
    · intro h
      obtain ⟨_, h⟩ := h
      obtain ⟨s, hs, -⟩ := bind_eq_ok.1 h
      exact ⟨s, hs⟩
    · intro h
      obtain ⟨s, hs⟩ := h
      exact ⟨_, bind_eq_ok.2 ⟨s, hs, rfl⟩⟩
  | map key value ihk ihv =>
    simp only [names, List.mem_append, or_imp, forall_and, ← ihk, ← ihv]
    rw [shape]
    constructor
    · intro h
      obtain ⟨_, h⟩ := h
      obtain ⟨k, hk, h⟩ := bind_eq_ok.1 h
      obtain ⟨v, hv, -⟩ := bind_eq_ok.1 h
      exact ⟨⟨k, hk⟩, v, hv⟩
    · intro h
      obtain ⟨⟨k, hk⟩, v, hv⟩ := h
      exact ⟨_, bind_eq_ok.2 ⟨k, hk, bind_eq_ok.2 ⟨v, hv, rfl⟩⟩⟩
  | named name =>
    simp only [names, List.mem_singleton, forall_eq]
    rw [shape]
    constructor
    · intro h
      obtain ⟨_, h⟩ := h
      obtain ⟨r, hr, -⟩ := bind_eq_ok.1 h
      exact ⟨r, hr⟩
    · intro h
      obtain ⟨r, hr⟩ := h
      exact ⟨_, bind_eq_ok.2 ⟨r, hr, rfl⟩⟩

/-- A text is a type expression with a name in it. -/
def Within (name text : String) : Prop := ∃ e, parse text = .ok e ∧ name ∈ e.names

end TypeExpr

namespace FieldSpec

/-- The type expression of a field has a name in it. -/
def Mentions (field : FieldSpec) (name : String) : Prop := TypeExpr.Within name field.type

/-- The names and shapes of fields, when `record` tells what names stand for. -/
def shapes (record : Referrer → String → Except ManifestError Record) (owner : String) :
    List FieldSpec → Except ManifestError (List (String × Shape))
  | [] => .ok []
  | field :: rest => do
    let expr ← (TypeExpr.parse field.type).mapError ManifestError.malformedType
    let shape ← expr.shape (record (.field owner field.name))
    let fields ← shapes record owner rest
    return (field.name, shape) :: fields

variable {f g : Referrer → String → Except ManifestError Record} {owner : String}

theorem shapes_congr {fields : List FieldSpec}
    (h : ∀ field ∈ fields, ∀ n, field.Mentions n →
      f (.field owner field.name) n = g (.field owner field.name) n) :
    shapes f owner fields = shapes g owner fields := by
  induction fields with
  | nil => rfl
  | cons field rest ih =>
    rw [shapes, shapes, ih fun x hx => h x (List.mem_cons_of_mem _ hx)]
    cases hparse : TypeExpr.parse field.type with
    | error e => rfl
    | ok e =>
      have hshape : e.shape (f (.field owner field.name)) = e.shape (g (.field owner field.name)) :=
        TypeExpr.shape_congr fun n hn => h field (by simp) n ⟨e, hparse, hn⟩
      change (e.shape _ >>= _) = (e.shape _ >>= _)
      rw [hshape]

/-- Fields have shapes exactly when their type expressions can be read and each name in
them stands for a record. -/
theorem exists_shapes_iff {fields : List FieldSpec} :
    (∃ shapes', shapes f owner fields = .ok shapes') ↔
      ∀ field ∈ fields, (∃ e, TypeExpr.parse field.type = .ok e) ∧
        ∀ n, field.Mentions n → ∃ r, f (.field owner field.name) n = .ok r := by
  induction fields with
  | nil => simp [shapes]
  | cons field rest ih =>
    simp only [shapes, bind_eq_ok, mapError_eq_ok, pure_eq_ok, List.forall_mem_cons, ← ih]
    constructor
    · rintro ⟨_, e, he, s, hs, ss, hss, rfl⟩
      refine ⟨⟨⟨e, he⟩, ?_⟩, ss, hss⟩
      intro n h
      obtain ⟨e', he', hn⟩ := h
      obtain rfl : e = e' := by rw [he] at he'; exact Except.ok.inj he'
      exact TypeExpr.exists_shape_iff.1 ⟨s, hs⟩ n hn
    · intro h
      obtain ⟨⟨⟨e, he⟩, hnames⟩, ss, hss⟩ := h
      obtain ⟨s, hs⟩ := TypeExpr.exists_shape_iff.2 fun n hn => hnames n ⟨e, he, hn⟩
      exact ⟨_, e, he, s, hs, ss, hss, rfl⟩

end FieldSpec

namespace Declarations

/-! ## Expansion -/

/-- The record that a name stands for, worked out afresh, `stack` being the names under
way. -/
def expandName (d : Declarations) (stack : List String) (referrer : Referrer) (name : String) :
    Except ManifestError Record :=
  if _hstack : name ∈ stack then .error (.recursiveRecord (stack ++ [name]))
  else match _hfind : d.find? name with
    | some spec => do
      let fields ← FieldSpec.shapes (d.expandName (stack ++ [name])) name spec.fields
      return Record.ofFields name fields
    | none =>
      if d.known.contains name then .ok (.bare name) else .error (.unknownType name referrer)
termination_by d.remaining stack
decreasing_by exact remaining_push _hstack _hfind

/-- The shape that the text of a type expression stands for. -/
def expandText (d : Declarations) (referrer : Referrer) (text : String) :
    Except ManifestError Shape := do
  let expr ← (TypeExpr.parse text).mapError ManifestError.malformedType
  expr.shape (d.expandName [] referrer)

/-- The handler that a manifest describes, between two shapes. -/
def makeHandler (spec : HandlerSpec) (request response : Shape) : Except ManifestError Handler := do
  let claims ← claims spec.name .none spec.authentication
  (Handler.make spec.name request response spec.method spec.route (orAnyone claims)
    spec.permissions).mapError ManifestError.generation

/-- The handler that a manifest describes. -/
def expandHandler (d : Declarations) (spec : HandlerSpec) : Except ManifestError Handler := do
  let request ← d.expandText (.handler spec.name) spec.request
  let response ← d.expandText (.handler spec.name) spec.response
  makeHandler spec request response

variable {d : Declarations} {stack : List String} {referrer : Referrer} {name : String}

theorem expandName_of_mem (h : name ∈ stack) :
    d.expandName stack referrer name = .error (.recursiveRecord (stack ++ [name])) := by
  rw [expandName, dif_pos h]

theorem expandName_of_declared (h : name ∉ stack) {spec : RecordSpec}
    (hfind : d.find? name = some spec) :
    d.expandName stack referrer name =
      (do let fields ← FieldSpec.shapes (d.expandName (stack ++ [name])) name spec.fields
          return Record.ofFields name fields) := by
  rw [expandName, dif_neg h]
  split
  · rename_i spec' hfind'
    cases hfind.symm.trans hfind'
    rfl
  · simp_all

theorem expandName_of_undeclared (h : name ∉ stack) (hfind : d.find? name = none) :
    d.expandName stack referrer name =
      if d.known.contains name then .ok (.bare name) else .error (.unknownType name referrer) := by
  rw [expandName, dif_neg h]
  split
  · simp_all
  · rfl

/-- The declaration of a record has a field that mentions a name. -/
def Mentions (d : Declarations) (record name : String) : Prop :=
  ∃ spec, d.find? record = some spec ∧ ∃ field ∈ spec.fields, field.Mentions name

/-- A name is declared, with type expressions that can be read, or well known. -/
def Sound (d : Declarations) (name : String) : Prop :=
  match d.find? name with
  | some spec => ∀ field ∈ spec.fields, ∃ e, TypeExpr.parse field.type = .ok e
  | none => d.known.contains name = true

theorem sound_of_find? {spec : RecordSpec} (h : d.find? name = some spec) :
    d.Sound name ↔ ∀ field ∈ spec.fields, ∃ e, TypeExpr.parse field.type = .ok e := by
  rw [Sound, h]

theorem sound_of_find?_eq_none (h : d.find? name = none) :
    d.Sound name ↔ d.known.contains name = true := by
  rw [Sound, h]

theorem not_mentions_of_find?_eq_none (h : d.find? name = none) (n : String) :
    ¬ d.Mentions name n := by
  rintro ⟨spec, hspec, -⟩
  rw [h] at hspec
  cases hspec

theorem mentions_of_find? {spec : RecordSpec} (h : d.find? name = some spec) {n : String} :
    d.Mentions name n ↔ ∃ field ∈ spec.fields, field.Mentions n := by
  simp [Mentions, h]

/-! ## What a successful expansion tells -/

/-- A name has an expansion while others are under way. -/
def Expands (d : Declarations) (stack : List String) (name : String) : Prop :=
  ∀ referrer, ∃ r, d.expandName stack referrer name = .ok r

/-- Where a name stands matters for the error only. -/
theorem expandName_of_ok {r : Record} (h : d.expandName stack referrer name = .ok r)
    (referrer' : Referrer) : d.expandName stack referrer' name = .ok r := by
  by_cases hs : name ∈ stack
  · rw [expandName_of_mem hs] at h
    cases h
  · cases hfind : d.find? name with
    | some spec => rw [expandName_of_declared hs hfind] at h ⊢; exact h
    | none =>
      rw [expandName_of_undeclared hs hfind] at h ⊢
      split at h
      · rename_i hk
        rw [if_pos hk, h]
      · cases h

theorem expands_of_ok {r : Record} (h : d.expandName stack referrer name = .ok r) :
    d.Expands stack name :=
  fun referrer' => ⟨r, expandName_of_ok h referrer'⟩

/-- A name expands when it is not under way, makes sense by itself, and what it mentions
expands in turn. -/
theorem expands_iff : d.Expands stack name ↔
    name ∉ stack ∧ d.Sound name ∧ ∀ n, d.Mentions name n → d.Expands (stack ++ [name]) n := by
  have here : ∀ {p : Prop}, (Referrer → p) ↔ p := ⟨fun h => h (.handler ""), fun h _ => h⟩
  by_cases hs : name ∈ stack
  · simp [Expands, expandName_of_mem hs, hs, here]
  simp only [hs, not_false_eq_true, true_and]
  cases hfind : d.find? name with
  | some spec =>
    have hok : d.Expands stack name ↔
        ∃ fs, FieldSpec.shapes (d.expandName (stack ++ [name])) name spec.fields = .ok fs := by
      simp only [Expands, expandName_of_declared hs hfind, bind_eq_ok, pure_eq_ok, here]
      constructor
      · rintro ⟨_, fs, h, -⟩
        exact ⟨fs, h⟩
      · intro h
        obtain ⟨fs, h⟩ := h
        exact ⟨_, fs, h, rfl⟩
    rw [hok, FieldSpec.exists_shapes_iff, sound_of_find? hfind]
    constructor
    · intro h
      refine ⟨fun field hf => (h field hf).1, fun n hn => ?_⟩
      obtain ⟨field, hf, hn⟩ := (mentions_of_find? hfind).1 hn
      obtain ⟨r, hr⟩ := (h field hf).2 n hn
      exact expands_of_ok hr
    · intro h field hf
      obtain ⟨hsound, hexp⟩ := h
      exact ⟨hsound field hf, fun n hn => hexp n ((mentions_of_find? hfind).2 ⟨field, hf, hn⟩) _⟩
  | none =>
    simp only [Expands, expandName_of_undeclared hs hfind, sound_of_find?_eq_none hfind,
      not_mentions_of_find?_eq_none hfind, false_implies, implies_true, and_true]
    split
    · rename_i hk
      simp [hk]
    · rename_i hk
      simp [hk, here]

/-- What can be reached from a name that expands expands too, with more under way. -/
theorem Expands.reach (h : d.Expands stack name) {n : String}
    (hr : ReflTransGen d.Mentions name n) : ∃ stack', stack ⊆ stack' ∧ d.Expands stack' n := by
  induction hr with
  | refl => exact ⟨stack, List.Subset.refl _, h⟩
  | tail _ hm ih =>
    obtain ⟨stack', hsub, hexp⟩ := ih
    exact ⟨_, List.Subset.trans hsub (List.subset_append_left _ _), (expands_iff.1 hexp).2.2 _ hm⟩

theorem Expands.not_mem (h : d.Expands stack name) {n : String}
    (hr : ReflTransGen d.Mentions name n) : n ∉ stack := by
  obtain ⟨stack', hsub, hexp⟩ := h.reach hr
  exact fun hn => (expands_iff.1 hexp).1 (hsub hn)

theorem Expands.sound (h : d.Expands stack name) {n : String}
    (hr : ReflTransGen d.Mentions name n) : d.Sound n := by
  obtain ⟨stack', -, hexp⟩ := h.reach hr
  exact (expands_iff.1 hexp).2.1

/-- A name that mentions another is under way while that one expands. -/
theorem Expands.ne_of_transGen (h : d.Expands stack name) {n : String}
    (hr : TransGen d.Mentions name n) : n ≠ name := by
  obtain ⟨k, hk, hr⟩ := TransGen.head'_iff.1 hr
  have hnot := ((expands_iff.1 h).2.2 k hk).not_mem hr
  rintro rfl
  simp at hnot

theorem Expands.acyclic (h : d.Expands stack name) {n : String}
    (hr : ReflTransGen d.Mentions name n) : ¬ TransGen d.Mentions n n := by
  obtain ⟨stack', -, hexp⟩ := h.reach hr
  exact fun hcycle => hexp.ne_of_transGen hcycle rfl

/-! ## When an expansion succeeds -/

/-- A name expands if all it reaches makes sense and no name that it reaches reaches
itself; what is under way must be on the way to it. -/
theorem expands_of_sound (hsound : ∀ n, ReflTransGen d.Mentions name n → d.Sound n)
    (hacyclic : ∀ n, ReflTransGen d.Mentions name n → ¬ TransGen d.Mentions n n)
    (hstack : ∀ n ∈ stack, TransGen d.Mentions n name) : d.Expands stack name := by
  induction hk : d.remaining stack using Nat.strongRecOn generalizing stack name with
  | _ k ih =>
    have hs : name ∉ stack := fun hm => hacyclic name .refl (hstack name hm)
    refine expands_iff.2 ⟨hs, hsound name .refl, fun n hn => ?_⟩
    obtain ⟨spec, hfind, -⟩ := id hn
    refine ih _ (hk ▸ remaining_push hs hfind) (fun m hm => hsound m (.head hn hm))
      (fun m hm => hacyclic m (.head hn hm)) (fun m hm => ?_) rfl
    rcases List.mem_append.1 hm with hm | hm
    · exact (hstack m hm).tail hn
    · rw [List.mem_singleton] at hm
      exact hm ▸ .single hn

/-! ## What is under way matters only where it is met -/

/-- An expansion stays the same when other names are under way, none of which it reaches. -/
theorem expandName_of_apart {r : Record} (h : d.expandName stack referrer name = .ok r)
    {stack' : List String} (hapart : ∀ n, ReflTransGen d.Mentions name n → n ∉ stack')
    (referrer' : Referrer) : d.expandName stack' referrer' name = .ok r := by
  induction hk : d.remaining stack using Nat.strongRecOn
    generalizing stack stack' referrer referrer' name r with
  | _ k ih =>
    have hexp := expands_of_ok h
    have hs : name ∉ stack := hexp.not_mem .refl
    have hs' : name ∉ stack' := hapart name .refl
    cases hfind : d.find? name with
    | none =>
      rw [expandName_of_undeclared hs hfind] at h
      rw [expandName_of_undeclared hs' hfind]
      split at h
      · rename_i hknown
        rw [if_pos hknown, h]
      · cases h
    | some spec =>
      have hfields : FieldSpec.shapes (d.expandName (stack' ++ [name])) name spec.fields =
          FieldSpec.shapes (d.expandName (stack ++ [name])) name spec.fields := by
        refine FieldSpec.shapes_congr fun field hf n hn => ?_
        have hm : d.Mentions name n := (mentions_of_find? hfind).2 ⟨field, hf, hn⟩
        have hexp' := (expands_iff.1 hexp).2.2 n hm
        obtain ⟨q, hq⟩ := hexp' (.field name field.name)
        rw [hq]
        refine ih _ (hk ▸ remaining_push hs hfind) hq (fun m hr => ?_) _ rfl
        rw [List.mem_append, List.mem_singleton, not_or]
        exact ⟨hapart m (.head hm hr), hexp.ne_of_transGen (.head' hm hr)⟩
      rw [expandName_of_declared hs hfind] at h
      rw [expandName_of_declared hs' hfind, hfields]
      exact h

end Declarations

/-- The handlers of a manifest, in order, each name expanded afresh wherever it stands. -/
def Manifest.expand (m : Manifest) (known : WellKnownTypes) : Except ManifestError (List Handler) := do
  checkNames [] m.records
  m.handlers.mapM (Declarations.mk m.records known).expandHandler

end ServiceSchema
