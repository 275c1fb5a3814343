/-
Keeping what names have been resolved to changes nothing: a manifest resolves to what
its expansion is, error for error (`resolve_eq_expand`).

The record kept for a name is looked up before anything else is checked, so it must be
what an expansion would give there and then (`Kept.value`). That it stays so when a
further name comes under way is because all declared names that a kept record mentions
are kept too (`Kept.closed`), and a name that is kept does not come under way again.
-/
import ServiceSchema.Proofs.Manifest.Expansion

namespace ServiceSchema

open Relation

/-- A record is kept under a name. -/
def Resolved.Has (done : Resolved) (name : String) : Prop := ∃ r, done.lookup name = some r

theorem Resolved.has_cons {done : Resolved} {name n : String} {r : Record} :
    Resolved.Has ((name, r) :: done) n ↔ n = name ∨ done.Has n := by
  unfold Resolved.Has
  by_cases h : n = name
  · simp [h]
  · have hb : (n == name) = false := by simpa using h
    simp [List.lookup_cons, hb, h]

namespace Declarations

/-- The records kept are those that their names expand to while `stack` is under way,
and with a record the declared names that it mentions are kept. -/
structure Kept (d : Declarations) (stack : List String) (done : Resolved) : Prop where
  value : ∀ {name r}, done.lookup name = some r → ∀ referrer, d.expandName stack referrer name = .ok r
  closed : ∀ {name n}, done.Has name → d.Mentions name n → (d.find? n).isSome → done.Has n

variable {d : Declarations} {stack : List String} {done : Resolved} {name : String}

theorem kept_nil : d.Kept stack [] where
  value h := by cases h
  closed h := by
    obtain ⟨r, hr⟩ := h
    cases hr

theorem declared_of_mentions {n : String} (h : d.Mentions name n) : (d.find? name).isSome := by
  obtain ⟨spec, hspec, -⟩ := h
  rw [hspec]
  rfl

namespace Kept

theorem expands (h : d.Kept stack done) (hn : done.Has name) : d.Expands stack name := by
  obtain ⟨r, hr⟩ := hn
  exact fun referrer => ⟨r, h.value hr referrer⟩

/-- With a record, all declared names that can be reached from it are kept. -/
theorem reach (h : d.Kept stack done) (hn : done.Has name) {n : String}
    (hr : ReflTransGen d.Mentions name n) (hdecl : (d.find? n).isSome) : done.Has n := by
  induction hr with
  | refl => exact hn
  | tail _ hm ih => exact h.closed (ih (declared_of_mentions hm)) hm hdecl

/-- What is kept stays right when other names are under way, if no kept record reaches them. -/
theorem restack (h : d.Kept stack done) {stack' : List String}
    (hapart : ∀ name, done.Has name → ∀ n, ReflTransGen d.Mentions name n → n ∉ stack') :
    d.Kept stack' done where
  value hl referrer := expandName_of_apart (h.value hl referrer) (hapart _ ⟨_, hl⟩) referrer
  closed := h.closed

/-- A declared name that is not kept comes under way. -/
theorem push (h : d.Kept stack done) (hnot : ¬ done.Has name) (hdecl : (d.find? name).isSome) :
    d.Kept (stack ++ [name]) done := by
  refine h.restack fun k hk n hr => ?_
  rw [List.mem_append, List.mem_singleton, not_or]
  refine ⟨(h.expands hk).not_mem hr, ?_⟩
  rintro rfl
  exact hnot (h.reach hk hr hdecl)

/-- A name is no longer under way. -/
theorem pop (h : d.Kept (stack ++ [name]) done) : d.Kept stack done :=
  h.restack fun _ hk _ hr hm => (h.expands hk).not_mem hr (List.mem_append_left _ hm)

/-- The record of a name is kept, after those of the names that it mentions. -/
theorem add (h : d.Kept stack done) {r : Record}
    (hr : ∀ referrer, d.expandName stack referrer name = .ok r)
    (hmentions : ∀ n, d.Mentions name n → (d.find? n).isSome → done.Has n) :
    d.Kept stack ((name, r) :: done) where
  value {k q} hl referrer := by
    rw [List.lookup_cons] at hl
    split at hl
    · rename_i hk
      obtain rfl : k = name := by simpa using hk
      cases hl
      exact hr referrer
    · exact h.value hl referrer
  closed {k n} hk hm hdecl := by
    rw [Resolved.has_cons] at hk ⊢
    rcases hk with rfl | hk
    · exact .inr (hmentions n hm hdecl)
    · exact .inr (h.closed hk hm hdecl)

end Kept

/-! ## A step of resolving and the expansion -/

/-- What a step leaves kept: what was kept, and the declared names among those it has
dealt with. -/
structure Leaves (d : Declarations) (stack : List String) (done : Resolved) (dealt : String → Prop)
    (done' : Resolved) : Prop where
  kept : d.Kept stack done'
  still : ∀ n, done.Has n → done'.Has n
  dealt : ∀ n, dealt n → (d.find? n).isSome → done'.Has n

/-- A step that keeps records gives what the step that keeps none gives. -/
structure Agrees {α : Type} (d : Declarations) (stack : List String) (done : Resolved)
    (dealt : String → Prop) (plain : Except ManifestError α)
    (memo : Except ManifestError (α × Resolved)) : Prop where
  result : plain = memo.map Prod.fst
  leaves : ∀ a done', memo = .ok (a, done') → d.Leaves stack done dealt done'

namespace Agrees

variable {α β : Type} {dealt dealt' : String → Prop} {plain : Except ManifestError α}
  {memo : Except ManifestError (α × Resolved)}

theorem error {e : ManifestError} : d.Agrees (α := α) stack done dealt (.error e) (.error e) :=
  ⟨rfl, fun _ _ h => by cases h⟩

theorem ok {a : α} {done' : Resolved} (h : d.Leaves stack done dealt done') :
    d.Agrees stack done dealt (.ok a) (.ok (a, done')) :=
  ⟨rfl, fun _ _ he => by cases he; exact h⟩

theorem mono (h : d.Agrees stack done dealt plain memo) (hsub : ∀ n, dealt' n → dealt n) :
    d.Agrees stack done dealt' plain memo :=
  ⟨h.result, fun a done' he =>
    have hl := h.leaves a done' he
    ⟨hl.kept, hl.still, fun n hn => hl.dealt n (hsub n hn)⟩⟩

/-- One step after the other. -/
theorem bind (h : d.Agrees stack done dealt plain memo) {f : α → Except ManifestError β}
    {g : α × Resolved → Except ManifestError (β × Resolved)}
    (hnext : ∀ a done', d.Kept stack done' → d.Agrees stack done' dealt' (f a) (g (a, done'))) :
    d.Agrees stack done (fun n => dealt n ∨ dealt' n) (plain >>= f) (memo >>= g) := by
  obtain ⟨hres, hleaves⟩ := h
  cases memo with
  | error e =>
    subst hres
    exact error
  | ok p =>
    obtain ⟨a, done'⟩ := p
    subst hres
    have hl := hleaves a done' rfl
    have hn := hnext a done' hl.kept
    refine ⟨hn.result, fun b done'' he => ?_⟩
    have hl' := hn.leaves b done'' he
    refine ⟨hl'.kept, fun n hn => hl'.still n (hl.still n hn), fun n hn hdecl => ?_⟩
    rcases hn with hn | hn
    · exact hl'.still n (hl.dealt n hn hdecl)
    · exact hl'.dealt n hn hdecl

/-- A step, and what is done with its result. -/
theorem andThen (h : d.Agrees stack done dealt plain memo) {f : α → Except ManifestError β}
    {g : α × Resolved → Except ManifestError (β × Resolved)}
    (hnext : ∀ a done', d.Kept stack done' →
      d.Agrees stack done' (fun _ => False) (f a) (g (a, done'))) :
    d.Agrees stack done dealt (plain >>= f) (memo >>= g) :=
  (h.bind hnext).mono fun _ hn => .inl hn

/-- A step that keeps nothing. -/
theorem apart {x : Except ManifestError α} (hk : d.Kept stack done) :
    d.Agrees stack done (fun _ => False) x (x >>= fun a => pure (a, done)) := by
  cases x with
  | error e => exact error
  | ok a => exact ok ⟨hk, fun n hn => hn, fun n hn _ => hn.elim⟩

/-- A step whose result is changed afterwards. -/
theorem map (h : d.Agrees stack done dealt plain memo) (f : α → β) :
    d.Agrees stack done dealt (plain >>= fun a => pure (f a))
      (memo >>= fun p => pure (f p.1, p.2)) :=
  h.andThen fun a _ hk => apart (x := pure (f a)) hk

end Agrees

/-! ## Names, type expressions and fields -/

variable {referrer : Referrer}

theorem resolveName_of_kept {r : Record} (h : done.lookup name = some r) :
    d.resolveName stack done referrer name = .ok (r, done) := by
  rw [resolveName, h]

section

variable (h : done.lookup name = none)

include h

theorem resolveName_of_mem (hs : name ∈ stack) :
    d.resolveName stack done referrer name = .error (.recursiveRecord (stack ++ [name])) := by
  rw [resolveName, h]
  simp only [dif_pos hs]

theorem resolveName_of_declared (hs : name ∉ stack) {spec : RecordSpec}
    (hfind : d.find? name = some spec) :
    d.resolveName stack done referrer name =
      (do let (fields, done) ← d.resolveFields (stack ++ [name]) done name spec.fields
          let r := Record.ofFields name fields
          return (r, (name, r) :: done)) := by
  rw [resolveName, h]
  simp only [dif_neg hs]
  split
  · rename_i spec' hfind'
    cases hfind.symm.trans hfind'
    rfl
  · simp_all

theorem resolveName_of_undeclared (hs : name ∉ stack) (hfind : d.find? name = none) :
    d.resolveName stack done referrer name =
      if d.known.contains name then .ok (.bare name, done) else .error (.unknownType name referrer) := by
  rw [resolveName, h]
  simp only [dif_neg hs]
  split
  · simp_all
  · rfl

end

/-- Names are resolved to what they expand to, whatever is kept. -/
def NamesAgree (d : Declarations) (stack : List String) : Prop :=
  ∀ done referrer name, d.Kept stack done → d.Agrees stack done (· = name)
    (d.expandName stack referrer name) (d.resolveName stack done referrer name)

theorem NamesAgree.expr (hnames : d.NamesAgree stack) (e : TypeExpr) (hk : d.Kept stack done) :
    d.Agrees stack done (· ∈ e.names) (e.shape (d.expandName stack referrer))
      (d.resolveExpr stack done referrer e) := by
  induction e generalizing done with
  | scalar kind =>
    rw [TypeExpr.shape, resolveExpr]
    exact .ok ⟨hk, fun n hn => hn, fun n hn _ => by cases hn⟩
  | list element ih =>
    rw [TypeExpr.shape, resolveExpr]
    exact (ih hk).map Shape.sequence
  | map key value ihk ihv =>
    rw [TypeExpr.shape, resolveExpr]
    refine ((ihk hk).bind fun k done' hk' => (ihv hk').map (Shape.map k)).mono fun n hn => ?_
    exact List.mem_append.1 hn
  | named name =>
    rw [TypeExpr.shape, resolveExpr]
    exact ((hnames done referrer name hk).map Shape.record).mono fun n hn => by simpa [TypeExpr.names] using hn

theorem NamesAgree.fields (hnames : d.NamesAgree stack) (owner : String) (fields : List FieldSpec)
    (hk : d.Kept stack done) :
    d.Agrees stack done (fun n => ∃ field ∈ fields, field.Mentions n)
      (FieldSpec.shapes (d.expandName stack) owner fields)
      (d.resolveFields stack done owner fields) := by
  induction fields generalizing done with
  | nil =>
    rw [FieldSpec.shapes, resolveFields]
    exact .ok ⟨hk, fun n hn => hn, fun n hn _ => by simp at hn⟩
  | cons field rest ih =>
    rw [FieldSpec.shapes, resolveFields]
    cases hparse : TypeExpr.parse field.type with
    | error e => exact .error
    | ok e =>
      refine ((hnames.expr e hk).bind fun s done' hk' =>
        (ih hk').map fun ss => (field.name, s) :: ss).mono fun n hn => ?_
      obtain ⟨x, hx, hn⟩ := hn
      rcases List.mem_cons.1 hx with rfl | hx
      · obtain ⟨e', he', hn⟩ := hn
        rw [hparse] at he'
        cases he'
        exact .inl hn
      · exact .inr ⟨x, hx, hn⟩

/-- The step for a name, given those for the fields of its record. -/
theorem agrees_of_declared {spec : RecordSpec} (hl : done.lookup name = none) (hs : name ∉ stack)
    (hfind : d.find? name = some spec) (hk : d.Kept stack done)
    (hnames : d.NamesAgree (stack ++ [name])) :
    d.Agrees stack done (· = name) (d.expandName stack referrer name)
      (d.resolveName stack done referrer name) := by
  have hdecl : (d.find? name).isSome := by rw [hfind]; rfl
  have hnot : ¬ done.Has name := by
    intro h
    obtain ⟨r, hr⟩ := h
    rw [hl] at hr
    cases hr
  have hfields := hnames.fields name spec.fields (hk.push hnot hdecl)
  rw [resolveName_of_declared hl hs hfind]
  cases hr : d.resolveFields (stack ++ [name]) done name spec.fields with
  | error e =>
    rw [expandName_of_declared hs hfind, hfields.result, hr]
    exact .error
  | ok p =>
    obtain ⟨fs, done'⟩ := p
    have hleaves := hfields.leaves fs done' hr
    have hexpand : ∀ referrer, d.expandName stack referrer name = .ok (Record.ofFields name fs) := by
      intro referrer
      rw [expandName_of_declared hs hfind, hfields.result, hr]
      rfl
    rw [hexpand referrer]
    refine .ok ⟨hleaves.kept.pop.add hexpand fun n hm => ?_, fun n hn => ?_, ?_⟩
    · exact hleaves.dealt n ((mentions_of_find? hfind).1 hm)
    · exact Resolved.has_cons.2 (.inr (hleaves.still n hn))
    · rintro n rfl -
      exact Resolved.has_cons.2 (.inl rfl)

theorem namesAgree (d : Declarations) (stack : List String) : d.NamesAgree stack := by
  induction hk : d.remaining stack using Nat.strongRecOn generalizing stack with
  | _ k ih =>
    intro done referrer name hkept
    cases hl : done.lookup name with
    | some r =>
      rw [resolveName_of_kept hl, hkept.value hl referrer]
      refine .ok ⟨hkept, fun n hn => hn, ?_⟩
      rintro n rfl -
      exact ⟨r, hl⟩
    | none =>
      by_cases hs : name ∈ stack
      · rw [resolveName_of_mem hl hs, expandName_of_mem hs]
        exact .error
      · cases hfind : d.find? name with
        | some spec =>
          exact agrees_of_declared hl hs hfind hkept (ih _ (hk ▸ remaining_push hs hfind) _ rfl)
        | none =>
          rw [resolveName_of_undeclared hl hs hfind, expandName_of_undeclared hs hfind]
          split
          · refine .ok ⟨hkept, fun n hn => hn, ?_⟩
            rintro n rfl hdecl
            rw [hfind] at hdecl
            cases hdecl
          · exact .error

/-! ## Handlers -/

theorem agrees_text (text : String) (hk : d.Kept [] done) :
    d.Agrees [] done (fun _ => False) (d.expandText referrer text)
      (d.resolveText done referrer text) := by
  rw [expandText, resolveText]
  cases TypeExpr.parse text with
  | error e => exact .error
  | ok e => exact ((namesAgree d []).expr e hk).mono fun n hn => hn.elim

theorem resolveHandler_eq (spec : HandlerSpec) : d.resolveHandler done spec =
    (do let (request, done) ← d.resolveText done (.handler spec.name) spec.request
        let (response, done) ← d.resolveText done (.handler spec.name) spec.response
        let handler ← makeHandler spec request response
        return (handler, done)) := by
  simp only [resolveHandler, makeHandler, bind_assoc]

theorem agrees_handler (spec : HandlerSpec) (hk : d.Kept [] done) :
    d.Agrees [] done (fun _ => False) (d.expandHandler spec) (d.resolveHandler done spec) := by
  rw [expandHandler, resolveHandler_eq]
  refine (agrees_text spec.request hk).andThen fun request done' hk' => ?_
  refine (agrees_text spec.response hk').andThen fun response done'' hk'' => ?_
  exact .apart hk''

/-- Handlers are resolved one by one, each as if it were the first. -/
theorem resolveHandlers_eq (specs : List HandlerSpec) (hk : d.Kept [] done) :
    d.resolveHandlers done specs = specs.mapM d.expandHandler := by
  induction specs generalizing done with
  | nil => rfl
  | cons spec rest ih =>
    obtain ⟨hresult, hleaves⟩ := agrees_handler spec hk
    rw [resolveHandlers, List.mapM_cons, hresult]
    cases hr : d.resolveHandler done spec with
    | error e => rfl
    | ok p =>
      obtain ⟨handler, done'⟩ := p
      have hrest := ih (hleaves handler done' hr).kept
      simp only [bind, Except.bind, Except.map, hrest]

theorem resolveHandlers_nil (specs : List HandlerSpec) :
    d.resolveHandlers [] specs = specs.mapM d.expandHandler :=
  resolveHandlers_eq specs kept_nil

end Declarations

/-- **Keeping records changes nothing.** A manifest resolves to its expansion: the same
handlers, or else the same error. -/
theorem Manifest.resolve_eq_expand (m : Manifest) (known : WellKnownTypes) :
    m.resolve known = m.expand known := by
  rw [resolve, expand, Declarations.resolveHandlers_nil]

end ServiceSchema
