/-
Which manifests resolve: those whose names are declared once and in which everything
that a handler reaches makes sense (`resolve_spec`). A record that no handler reaches
has to pass the check of names and may be anything otherwise.

The stack of names under way and the graph of what mentions what meet in one fact: a
name expands with nothing else under way exactly when all that it reaches is sound and
nothing that it reaches reaches itself (`expands_nil_iff`).
-/
import Mathlib.Data.List.Nodup
import ServiceSchema.Proofs.Manifest.Memo

namespace ServiceSchema

open Relation

section

variable {ε α β : Type} {f g : α → Except ε β}

theorem exists_mapM_eq_ok_iff {l : List α} :
    (∃ ys, l.mapM f = .ok ys) ↔ ∀ x ∈ l, ∃ y, f x = .ok y := by
  induction l with
  | nil => simp [pure_eq_ok]
  | cons x rest ih =>
    simp only [List.mapM_cons, bind_eq_ok, pure_eq_ok, List.forall_mem_cons, ← ih]
    constructor
    · rintro ⟨_, y, hy, ys, hys, -⟩
      exact ⟨⟨y, hy⟩, ys, hys⟩
    · intro h
      obtain ⟨⟨y, hy⟩, ys, hys⟩ := h
      exact ⟨_, y, hy, ys, hys, rfl⟩

theorem mapM_congr {l : List α} (h : ∀ x ∈ l, f x = g x) : l.mapM f = l.mapM g := by
  induction l with
  | nil => rfl
  | cons x rest ih =>
    rw [List.mapM_cons, List.mapM_cons, h x (by simp), ih fun y hy => h y (by simp [hy])]

end

/-! ## Names are declared once -/

namespace Manifest

/-- Records have different names, and so have the fields of each record. -/
structure Distinct (records : List RecordSpec) : Prop where
  recordNames : (records.map (·.name)).Nodup
  fieldNames : ∀ spec ∈ records, (spec.fields.map (·.name)).Nodup

theorem repeated?_eq_none_iff {seen names : List String} :
    repeated? seen names = none ↔ names.Nodup ∧ ∀ n ∈ names, n ∉ seen := by
  induction names generalizing seen with
  | nil => simp [repeated?]
  | cons name rest ih =>
    rw [repeated?]
    by_cases h : name ∈ seen
    · simp [h]
    · rw [if_neg h, ih]
      simp only [List.nodup_cons, List.mem_cons, not_or, forall_eq_or_imp, h, not_false_eq_true,
        true_and, forall_and]
      constructor
      · intro h
        obtain ⟨hnodup, hne, hseen⟩ := h
        exact ⟨⟨fun hm => hne name hm rfl, hnodup⟩, hseen⟩
      · intro h
        obtain ⟨⟨hnot, hnodup⟩, hseen⟩ := h
        exact ⟨hnodup, fun n hn he => hnot (he ▸ hn), hseen⟩

theorem checkNames_eq_ok_iff {seen : List String} {records : List RecordSpec} :
    checkNames seen records = .ok () ↔
      Distinct records ∧ ∀ spec ∈ records, spec.name ∉ seen := by
  induction records generalizing seen with
  | nil => simp [checkNames, Distinct.mk]
  | cons spec rest ih =>
    rw [checkNames]
    by_cases h : spec.name ∈ seen
    · simp [h]
    rw [if_neg h]
    cases hf : repeated? [] (spec.fields.map (·.name)) with
    | some field =>
      simp only [reduceCtorEq, false_iff, not_and]
      intro hd
      have hnone := repeated?_eq_none_iff.2 ⟨hd.fieldNames spec (by simp), fun n _ => List.not_mem_nil⟩
      rw [hnone] at hf
      cases hf
    | none =>
      have hfields := (repeated?_eq_none_iff.1 hf).1
      simp only [ih, List.mem_cons, not_or, forall_eq_or_imp, h, not_false_eq_true, true_and]
      constructor
      · intro h
        obtain ⟨hd, hnot⟩ := h
        refine ⟨⟨?_, ?_⟩, fun s hs => (hnot s hs).2⟩
        · rw [List.map_cons, List.nodup_cons]
          refine ⟨fun hm => ?_, hd.recordNames⟩
          obtain ⟨s, hs, he⟩ := List.mem_map.1 hm
          exact (hnot s hs).1 he
        · exact List.forall_mem_cons.2 ⟨hfields, hd.fieldNames⟩
      · intro h
        obtain ⟨⟨hnodup, hall⟩, hseen⟩ := h
        rw [List.map_cons, List.nodup_cons] at hnodup
        refine ⟨⟨hnodup.2, (List.forall_mem_cons.1 hall).2⟩, fun s hs => ⟨fun he => ?_, hseen s hs⟩⟩
        exact hnodup.1 (he ▸ List.mem_map_of_mem hs)

theorem checkNames_nil_eq_ok_iff {records : List RecordSpec} :
    checkNames [] records = .ok () ↔ Distinct records := by
  rw [checkNames_eq_ok_iff]
  exact and_iff_left fun _ _ => List.not_mem_nil

end Manifest

/-! ## Names of claims -/

/-- A text names a kind of caller, in any mixture of cases, between blank characters. -/
def Claims.Named (text : String) : Prop :=
  Text.asciiLower (Text.trim text) ∈ ["any", "authenticated", "admin", "owner"]

theorem Claims.ofName?_isSome_iff {text : String} : (ofName? text).isSome ↔ Named text := by
  unfold ofName? Named
  generalize Text.asciiLower (Text.trim text) = name
  split <;> simp_all

/-! ## What a handler reaches -/

/-- The request or the response of a handler has a name in it. -/
def HandlerSpec.Mentions (spec : HandlerSpec) (name : String) : Prop :=
  TypeExpr.Within name spec.request ∨ TypeExpr.Within name spec.response

namespace Manifest

/-- What the names in a manifest can refer to. -/
abbrev declarations (m : Manifest) (known : WellKnownTypes) : Declarations := ⟨m.records, known⟩

/-- A name is in a request or response, or in a field of a declared record whose name can
be reached. -/
def Reaches (m : Manifest) (known : WellKnownTypes) (name : String) : Prop :=
  ∃ spec ∈ m.handlers, ∃ root, spec.Mentions root ∧
    ReflTransGen (m.declarations known).Mentions root name

/-- All that a manifest must satisfy to resolve. -/
structure Resolvable (m : Manifest) (known : WellKnownTypes) : Prop where
  distinct : Distinct m.records
  request : ∀ spec ∈ m.handlers, ∃ name, TypeExpr.parse spec.request = .ok (.named name)
  response : ∀ spec ∈ m.handlers, ∃ name, TypeExpr.parse spec.response = .ok (.named name)
  claims : ∀ spec ∈ m.handlers, ∀ claim ∈ spec.authentication, Claims.Named claim
  /-- A name that is reached is declared or well known. -/
  declared : ∀ name, m.Reaches known name →
    (∃ spec ∈ m.records, spec.name = name) ∨ known.contains name = true
  /-- A record that is reached has fields whose type expressions can be read. -/
  readable : ∀ spec ∈ m.records, m.Reaches known spec.name →
    ∀ field ∈ spec.fields, ∃ e, TypeExpr.parse field.type = .ok e
  /-- A record that is reached does not contain itself. -/
  acyclic : ∀ name, m.Reaches known name → ¬ TransGen (m.declarations known).Mentions name name

end Manifest

namespace Declarations

variable {d : Declarations} {name : String}

/-- With different names, each record is the declaration of its own name. -/
theorem sound_iff (hd : Manifest.Distinct d.records) : d.Sound name ↔
    ((∃ spec ∈ d.records, spec.name = name) ∨ d.known.contains name = true) ∧
      ∀ spec ∈ d.records, spec.name = name →
        ∀ field ∈ spec.fields, ∃ e, TypeExpr.parse field.type = .ok e := by
  cases hfind : d.find? name with
  | some spec =>
    have hspec := mem_of_find? hfind
    have hname := name_of_find? hfind
    rw [sound_of_find? hfind]
    constructor
    · intro h
      refine ⟨.inl ⟨spec, hspec, hname⟩, fun other hother he => ?_⟩
      obtain rfl : other = spec :=
        List.inj_on_of_nodup_map hd.recordNames hother hspec (he.trans hname.symm)
      exact h
    · exact fun h => h.2 spec hspec hname
  | none =>
    have hnot : ∀ spec ∈ d.records, spec.name ≠ name := by
      simpa using List.find?_eq_none.1 hfind
    rw [sound_of_find?_eq_none hfind]
    constructor
    · exact fun h => ⟨.inr h, fun spec hspec he => absurd he (hnot spec hspec)⟩
    · rintro ⟨⟨spec, hspec, he⟩ | h, -⟩
      · exact absurd he (hnot spec hspec)
      · exact h

/-! ## When names, texts and handlers expand -/

theorem expands_nil_iff : d.Expands [] name ↔
    ∀ n, ReflTransGen d.Mentions name n → d.Sound n ∧ ¬ TransGen d.Mentions n n := by
  constructor
  · exact fun h n hn => ⟨h.sound hn, h.acyclic hn⟩
  · intro h
    refine expands_of_sound (fun n hn => (h n hn).1) (fun n hn => (h n hn).2) fun n hn => ?_
    cases hn

/-- Only a bare name stands for a record. -/
theorem expandText_eq_record_iff {referrer : Referrer} {text : String} :
    (∃ r, d.expandText referrer text = .ok (.record r)) ↔
      ∃ name, TypeExpr.parse text = .ok (.named name) ∧ d.Expands [] name := by
  simp only [expandText, bind_eq_ok, mapError_eq_ok]
  constructor
  · intro h
    obtain ⟨r, e, he, hs⟩ := h
    cases e with
    | scalar kind => cases hs
    | list element =>
      obtain ⟨_, -, h⟩ := bind_eq_ok.1 (by rwa [TypeExpr.shape] at hs)
      cases h
    | map key value =>
      rw [TypeExpr.shape] at hs
      obtain ⟨_, -, h⟩ := bind_eq_ok.1 hs
      obtain ⟨_, -, h⟩ := bind_eq_ok.1 h
      cases h
    | named name =>
      rw [TypeExpr.shape] at hs
      obtain ⟨r', hr, -⟩ := bind_eq_ok.1 hs
      exact ⟨name, he, expands_of_ok hr⟩
  · intro h
    obtain ⟨name, he, hexp⟩ := h
    obtain ⟨r, hr⟩ := hexp referrer
    refine ⟨r, _, he, ?_⟩
    rw [TypeExpr.shape, hr]
    rfl

theorem claims_isOk_iff (handler : String) (sum : Claims) {names : List String} :
    (∃ cs, claims handler sum names = .ok cs) ↔ ∀ n ∈ names, Claims.Named n := by
  induction names generalizing sum with
  | nil => simp [claims]
  | cons n rest ih =>
    rw [claims, List.forall_mem_cons, ← Claims.ofName?_isSome_iff]
    cases h : Claims.ofName? n with
    | none => simp
    | some claim => simp [ih]

theorem requireRecord_eq_ok {handler : String} {role : Role} {shape : Shape} {r : Record} :
    Handler.requireRecord handler role shape = .ok r ↔ shape = .record r := by
  cases shape <;> simp [Handler.requireRecord]

theorem makeHandler_isOk_iff {spec : HandlerSpec} {request response : Shape} :
    (∃ h, makeHandler spec request response = .ok h) ↔
      (∃ r, request = .record r) ∧ (∃ r, response = .record r) ∧
        ∀ claim ∈ spec.authentication, Claims.Named claim := by
  rw [← claims_isOk_iff spec.name .none]
  simp only [makeHandler, Handler.make, bind_eq_ok, mapError_eq_ok, pure_eq_ok, requireRecord_eq_ok]
  constructor
  · rintro ⟨_, cs, hcs, r, hr, q, hq, -⟩
    exact ⟨⟨r, hr⟩, ⟨q, hq⟩, cs, hcs⟩
  · intro h
    obtain ⟨⟨r, hr⟩, ⟨q, hq⟩, cs, hcs⟩ := h
    exact ⟨_, cs, hcs, r, hr, q, hq, rfl⟩

theorem expandHandler_isOk_iff {spec : HandlerSpec} :
    (∃ h, d.expandHandler spec = .ok h) ↔
      (∃ name, TypeExpr.parse spec.request = .ok (.named name) ∧ d.Expands [] name) ∧
      (∃ name, TypeExpr.parse spec.response = .ok (.named name) ∧ d.Expands [] name) ∧
        ∀ claim ∈ spec.authentication, Claims.Named claim := by
  rw [← expandText_eq_record_iff, ← expandText_eq_record_iff]
  simp only [expandHandler, bind_eq_ok]
  constructor
  · intro h
    obtain ⟨h, s, hs, t, ht, hmake⟩ := h
    obtain ⟨⟨r, rfl⟩, ⟨q, rfl⟩, hclaims⟩ := makeHandler_isOk_iff.1 ⟨h, hmake⟩
    exact ⟨⟨r, hs⟩, ⟨q, ht⟩, hclaims⟩
  · intro h
    obtain ⟨⟨r, hs⟩, ⟨q, ht⟩, hclaims⟩ := h
    obtain ⟨h, hmake⟩ := makeHandler_isOk_iff.2 ⟨⟨r, rfl⟩, ⟨q, rfl⟩, hclaims⟩
    exact ⟨h, _, hs, _, ht, hmake⟩

/-! ## What is not reached does not matter -/

variable {d' : Declarations} {stack : List String} {referrer : Referrer}

/-- Declarations that agree on all that a name reaches expand it alike. -/
theorem expandName_congr (hknown : d'.known = d.known)
    (h : ∀ n, ReflTransGen d.Mentions name n → d'.find? n = d.find? n) :
    d'.expandName stack referrer name = d.expandName stack referrer name := by
  induction hk : d.remaining stack using Nat.strongRecOn generalizing stack referrer name with
  | _ k ih =>
    have hfind' := h name .refl
    by_cases hs : name ∈ stack
    · rw [expandName_of_mem hs, expandName_of_mem hs]
    · cases hfind : d.find? name with
      | none =>
        rw [hfind] at hfind'
        rw [expandName_of_undeclared hs hfind, expandName_of_undeclared hs hfind', hknown]
      | some spec =>
        rw [hfind] at hfind'
        have hfields : FieldSpec.shapes (d'.expandName (stack ++ [name])) name spec.fields =
            FieldSpec.shapes (d.expandName (stack ++ [name])) name spec.fields := by
          refine FieldSpec.shapes_congr fun field hf n hn => ?_
          have hm : d.Mentions name n := (mentions_of_find? hfind).2 ⟨field, hf, hn⟩
          exact ih _ (hk ▸ remaining_push hs hfind) (fun n' hn' => h n' (.head hm hn')) rfl
        rw [expandName_of_declared hs hfind, expandName_of_declared hs hfind', hfields]

theorem expandText_congr (hknown : d'.known = d.known) {text : String}
    (h : ∀ root, TypeExpr.Within root text →
      ∀ n, ReflTransGen d.Mentions root n → d'.find? n = d.find? n) :
    d'.expandText referrer text = d.expandText referrer text := by
  rw [expandText, expandText]
  cases hparse : TypeExpr.parse text with
  | error e => rfl
  | ok e =>
    exact TypeExpr.shape_congr fun root hroot => expandName_congr hknown (h root ⟨e, hparse, hroot⟩)

theorem expandHandler_congr (hknown : d'.known = d.known) {spec : HandlerSpec}
    (h : ∀ root, spec.Mentions root →
      ∀ n, ReflTransGen d.Mentions root n → d'.find? n = d.find? n) :
    d'.expandHandler spec = d.expandHandler spec := by
  rw [expandHandler, expandHandler, expandText_congr hknown fun root hroot => h root (.inl hroot),
    expandText_congr hknown fun root hroot => h root (.inr hroot)]

end Declarations

/-! ## The manifest as a whole -/

namespace Manifest

variable {m : Manifest} {known : WellKnownTypes}

/-- All handlers expand exactly when the manifest is resolvable. -/
theorem resolvable_iff : m.Resolvable known ↔ Distinct m.records ∧
    ∀ spec ∈ m.handlers, ∃ h, (m.declarations known).expandHandler spec = .ok h := by
  simp only [Declarations.expandHandler_isOk_iff, Declarations.expands_nil_iff]
  constructor
  · intro h
    have hreached : ∀ n, m.Reaches known n →
        (m.declarations known).Sound n ∧ ¬ TransGen (m.declarations known).Mentions n n := by
      intro n hn
      refine ⟨(Declarations.sound_iff h.distinct).2 ⟨h.declared n hn, ?_⟩, h.acyclic n hn⟩
      rintro spec hspec rfl
      exact h.readable spec hspec hn
    refine ⟨h.distinct, fun spec hspec => ?_⟩
    obtain ⟨request, hrequest⟩ := h.request spec hspec
    obtain ⟨response, hresponse⟩ := h.response spec hspec
    refine ⟨⟨request, hrequest, fun n hn => hreached n ?_⟩,
      ⟨response, hresponse, fun n hn => hreached n ?_⟩, h.claims spec hspec⟩
    · exact ⟨spec, hspec, request, .inl ⟨_, hrequest, by simp [TypeExpr.names]⟩, hn⟩
    · exact ⟨spec, hspec, response, .inr ⟨_, hresponse, by simp [TypeExpr.names]⟩, hn⟩
  · intro h
    obtain ⟨hd, h⟩ := h
    have hreached : ∀ n, m.Reaches known n →
        (m.declarations known).Sound n ∧ ¬ TransGen (m.declarations known).Mentions n n := by
      intro n hn
      obtain ⟨spec, hspec, root, hroot, hn⟩ := hn
      obtain ⟨⟨request, hrequest, hreq⟩, ⟨response, hresponse, hresp⟩, -⟩ := h spec hspec
      rcases hroot with ⟨e, he, hroot⟩ | ⟨e, he, hroot⟩
      · cases hrequest.symm.trans he
        obtain rfl := List.mem_singleton.1 hroot
        exact hreq n hn
      · cases hresponse.symm.trans he
        obtain rfl := List.mem_singleton.1 hroot
        exact hresp n hn
    refine ⟨hd, fun spec hspec => ?_, fun spec hspec => ?_, fun spec hspec => (h spec hspec).2.2,
      fun n hn => ?_, fun spec hspec hn => ?_, fun n hn => (hreached n hn).2⟩
    · obtain ⟨⟨name, hname, -⟩, -⟩ := h spec hspec
      exact ⟨name, hname⟩
    · obtain ⟨-, ⟨name, hname, -⟩, -⟩ := h spec hspec
      exact ⟨name, hname⟩
    · exact ((Declarations.sound_iff hd).1 (hreached n hn).1).1
    · exact ((Declarations.sound_iff hd).1 (hreached _ hn).1).2 spec hspec rfl

/-- **Which manifests resolve.** A manifest resolves exactly when it is `Resolvable`. And what
comes out, handlers or error, is the same with any other records that pass or fail the check
of names alike and give the same declarations to the names that are reached. -/
theorem resolve_spec (m : Manifest) (known : WellKnownTypes) :
    ((∃ handlers, m.resolve known = .ok handlers) ↔ m.Resolvable known) ∧
      ∀ records, checkNames [] records = checkNames [] m.records →
        (∀ name, m.Reaches known name →
          Declarations.find? ⟨records, known⟩ name = (m.declarations known).find? name) →
        { m with records }.resolve known = m.resolve known := by
  constructor
  · rw [resolvable_iff, ← exists_mapM_eq_ok_iff, ← checkNames_nil_eq_ok_iff]
    simp only [resolve, Declarations.resolveHandlers_nil, bind_eq_ok]
    constructor
    · intro h
      obtain ⟨handlers, _, hcheck, h⟩ := h
      exact ⟨hcheck, handlers, h⟩
    · intro h
      obtain ⟨hcheck, handlers, h⟩ := h
      exact ⟨handlers, _, hcheck, h⟩
  · intro records hcheck hfind
    have hhandlers : m.handlers.mapM (Declarations.mk records known).expandHandler =
        m.handlers.mapM (m.declarations known).expandHandler := by
      have hknown : (Declarations.mk records known).known = (m.declarations known).known := rfl
      refine mapM_congr fun spec hspec =>
        Declarations.expandHandler_congr hknown fun root hroot n hn => ?_
      exact hfind n ⟨spec, hspec, root, hroot, hn⟩
    rw [resolve, resolve, Declarations.resolveHandlers_nil, Declarations.resolveHandlers_nil,
      hhandlers, hcheck]

end Manifest

end ServiceSchema
