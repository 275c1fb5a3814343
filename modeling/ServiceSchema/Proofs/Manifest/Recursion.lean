/-
A record that contains itself: the path that is reported for it is one that the declarations
have (`recursivePath_of_resolve`). It starts in a handler, each of its names is declared and
mentions the next, and the last one is the first to come again.

The path is the stack of names under way with the name that is met again. The stack is a chain
of mentions at any time, since a name comes onto it only as a mention in the declaration of the
one below it (`UnderWay`). All other errors stop the walk before the stack is looked at, or have
nothing to do with it, so the path can only come from a name that is met (`shape_eq_error`,
`shapes_eq_error`).
-/
import Mathlib.Data.List.Chain
import ServiceSchema.Proofs.Manifest.Acceptance

namespace ServiceSchema

/-! ## Where an error comes from -/

theorem TypeExpr.shape_eq_error {record : String → Except ManifestError Record} {e : TypeExpr}
    {error : ManifestError} (h : e.shape record = .error error) :
    ∃ n ∈ e.names, record n = .error error := by
  induction e with
  | scalar kind => cases h
  | list element ih =>
    rw [shape, bind_eq_error] at h
    rcases h with h | ⟨s, -, h⟩
    · exact ih h
    · cases h
  | map key value ihk ihv =>
    rw [shape, bind_eq_error] at h
    rcases h with h | ⟨k, -, h⟩
    · obtain ⟨n, hn, herror⟩ := ihk h
      exact ⟨n, List.mem_append_left _ hn, herror⟩
    rcases bind_eq_error.1 h with h | ⟨v, -, h⟩
    · obtain ⟨n, hn, herror⟩ := ihv h
      exact ⟨n, List.mem_append_right _ hn, herror⟩
    · cases h
  | named name =>
    rw [shape, bind_eq_error] at h
    rcases h with h | ⟨r, -, h⟩
    · exact ⟨name, List.mem_singleton_self _, h⟩
    · cases h

/-- Fields fail for a text that cannot be read, or for a name in one of them. -/
theorem FieldSpec.shapes_eq_error {record : Referrer → String → Except ManifestError Record}
    {owner : String} {fields : List FieldSpec} {error : ManifestError}
    (h : shapes record owner fields = .error error) :
    (∃ malformed, error = .malformedType malformed) ∨
      ∃ field ∈ fields, ∃ n, field.Mentions n ∧
        record (.field owner field.name) n = .error error := by
  induction fields with
  | nil => cases h
  | cons field rest ih =>
    rw [shapes, bind_eq_error] at h
    rcases h with h | ⟨e, he, h⟩
    · obtain ⟨malformed, -, rfl⟩ := mapError_eq_error.1 h
      exact .inl ⟨malformed, rfl⟩
    rcases bind_eq_error.1 h with h | ⟨s, -, h⟩
    · obtain ⟨n, hn, herror⟩ := TypeExpr.shape_eq_error h
      exact .inr ⟨field, List.mem_cons_self, n, ⟨e, mapError_eq_ok.1 he, hn⟩, herror⟩
    rcases bind_eq_error.1 h with h | ⟨ss, -, h⟩
    · rcases ih h with hmalformed | ⟨x, hx, hrest⟩
      · exact .inl hmalformed
      · exact .inr ⟨x, List.mem_cons_of_mem _ hx, hrest⟩
    · cases h

theorem mapM_eq_error {ε α β : Type} {f : α → Except ε β} {l : List α} {e : ε}
    (h : l.mapM f = .error e) : ∃ x ∈ l, f x = .error e := by
  induction l with
  | nil => cases h
  | cons x rest ih =>
    rw [List.mapM_cons, bind_eq_error] at h
    rcases h with h | ⟨y, -, h⟩
    · exact ⟨x, List.mem_cons_self, h⟩
    rcases bind_eq_error.1 h with h | ⟨ys, -, h⟩
    · obtain ⟨z, hz, herror⟩ := ih h
      exact ⟨z, List.mem_cons_of_mem _ hz, herror⟩
    · cases h

namespace Declarations

theorem claims_eq_error {handler : String} {sum : Claims} {names : List String}
    {error : ManifestError} (h : claims handler sum names = .error error) :
    ∃ claim, error = .unknownClaim handler claim := by
  induction names generalizing sum with
  | nil => cases h
  | cons name rest ih =>
    rw [claims] at h
    cases hname : Claims.ofName? name with
    | some claim =>
      rw [hname] at h
      exact ih h
    | none =>
      rw [hname] at h
      cases h
      exact ⟨name, rfl⟩

theorem makeHandler_eq_error {spec : HandlerSpec} {request response : Shape}
    {error : ManifestError} (h : makeHandler spec request response = .error error) :
    (∃ claim, error = .unknownClaim spec.name claim) ∨ ∃ e, error = .generation e := by
  rw [makeHandler, bind_eq_error] at h
  rcases h with h | ⟨cs, -, h⟩
  · exact .inl (claims_eq_error h)
  · obtain ⟨e, -, rfl⟩ := mapError_eq_error.1 h
    exact .inr ⟨e, rfl⟩

end Declarations

theorem Manifest.checkNames_eq_error {seen : List String} {records : List RecordSpec}
    {error : ManifestError} (h : checkNames seen records = .error error) :
    (∃ name, error = .duplicateRecord name) ∨ ∃ record field, error = .duplicateField record field := by
  induction records generalizing seen with
  | nil => cases h
  | cons spec rest ih =>
    rw [checkNames] at h
    split at h
    · cases h
      exact .inl ⟨_, rfl⟩
    · split at h
      · cases h
        exact .inr ⟨_, _, rfl⟩
      · exact ih h

/-! ## Names under way -/

/-- All but the last on a chain have one behind them. -/
theorem exists_next {α : Type} {R : α → α → Prop} {l : List α} (h : l.IsChain R) {x : α}
    (hx : x ∈ l.dropLast) : ∃ y, R x y := by
  induction h with
  | nil => cases hx
  | singleton a => cases hx
  | @cons_cons a b rest hab _ ih =>
    rw [List.dropLast_cons_cons, List.mem_cons] at hx
    rcases hx with rfl | hx
    · exact ⟨b, hab⟩
    · exact ih hx

namespace Declarations

variable {d : Declarations} {stack path : List String} {referrer : Referrer} {name : String}

/-- A path of names ends where it comes back: each name mentions the next one, and the last is
the only one that has been before. -/
structure Returns (d : Declarations) (path : List String) : Prop where
  mentions : path.IsChain d.Mentions
  distinct : path.dropLast.Nodup
  again : ∃ last ∈ path.getLast?, last ∈ path.dropLast

/-- A name is met with others under way: these are different, and each mentions the next. -/
structure UnderWay (d : Declarations) (stack : List String) (name : String) : Prop where
  mentions : (stack ++ [name]).IsChain d.Mentions
  distinct : stack.Nodup

theorem UnderWay.push (h : d.UnderWay stack name) (hs : name ∉ stack) {n : String}
    (hn : d.Mentions name n) : d.UnderWay (stack ++ [name]) n where
  mentions := by
    refine List.isChain_append.2 ⟨h.mentions, .singleton n, fun x hx y hy => ?_⟩
    rw [List.getLast?_concat, Option.mem_some] at hx
    rw [List.head?_cons, Option.mem_some] at hy
    exact hx ▸ hy ▸ hn
  distinct := List.nodup_append.2 ⟨h.distinct, List.nodup_singleton _,
    fun x hx y hy => by rintro rfl; exact hs (List.mem_singleton.1 hy ▸ hx)⟩

/-- The path of an error starts with the names under way, and returns. -/
theorem returns_of_expandName (hway : d.UnderWay stack name)
    (h : d.expandName stack referrer name = .error (.recursiveRecord path)) :
    stack ++ [name] <+: path ∧ d.Returns path := by
  induction hk : d.remaining stack using Nat.strongRecOn generalizing stack referrer name with
  | _ k ih =>
    by_cases hs : name ∈ stack
    · rw [expandName_of_mem hs] at h
      cases h
      refine ⟨List.prefix_rfl, hway.mentions, ?_, name, ?_, ?_⟩
      · rw [List.dropLast_concat]
        exact hway.distinct
      · rw [List.getLast?_concat, Option.mem_some]
      · rw [List.dropLast_concat]
        exact hs
    cases hfind : d.find? name with
    | none =>
      rw [expandName_of_undeclared hs hfind] at h
      split at h
      · cases h
      · cases h
    | some spec =>
      rw [expandName_of_declared hs hfind, bind_eq_error] at h
      rcases h with h | ⟨fields, -, h⟩
      · rcases FieldSpec.shapes_eq_error h with ⟨malformed, hmalformed⟩ | ⟨field, hfield, n, hn, hnext⟩
        · cases hmalformed
        · have hmentions : d.Mentions name n := (mentions_of_find? hfind).2 ⟨field, hfield, hn⟩
          have hlt : d.remaining (stack ++ [name]) < k := hk ▸ remaining_push hs hfind
          obtain ⟨hstart, hreturns⟩ := ih _ hlt (hway.push hs hmentions) hnext rfl
          exact ⟨(List.prefix_append _ _).trans hstart, hreturns⟩
      · cases h

theorem returns_of_expandText {text : String}
    (h : d.expandText referrer text = .error (.recursiveRecord path)) :
    (∃ first ∈ path.head?, TypeExpr.Within first text) ∧ d.Returns path := by
  rw [expandText, bind_eq_error] at h
  rcases h with h | ⟨e, he, h⟩
  · obtain ⟨malformed, -, hmalformed⟩ := mapError_eq_error.1 h
    cases hmalformed
  · obtain ⟨n, hn, herror⟩ := TypeExpr.shape_eq_error h
    obtain ⟨⟨rest, rfl⟩, hreturns⟩ := returns_of_expandName ⟨.singleton n, List.nodup_nil⟩ herror
    exact ⟨⟨n, rfl, e, mapError_eq_ok.1 he, hn⟩, hreturns⟩

theorem returns_of_expandHandler {spec : HandlerSpec}
    (h : d.expandHandler spec = .error (.recursiveRecord path)) :
    (∃ first ∈ path.head?, spec.Mentions first) ∧ d.Returns path := by
  rw [expandHandler, bind_eq_error] at h
  rcases h with h | ⟨request, -, h⟩
  · obtain ⟨⟨first, hfirst, hwithin⟩, hreturns⟩ := returns_of_expandText h
    exact ⟨⟨first, hfirst, .inl hwithin⟩, hreturns⟩
  rcases bind_eq_error.1 h with h | ⟨response, -, h⟩
  · obtain ⟨⟨first, hfirst, hwithin⟩, hreturns⟩ := returns_of_expandText h
    exact ⟨⟨first, hfirst, .inr hwithin⟩, hreturns⟩
  · rcases makeHandler_eq_error h with ⟨_, herror⟩ | ⟨_, herror⟩
    · cases herror
    · cases herror

/-- All names on a path that returns have one behind them, so they are declared. -/
theorem Returns.declared (h : d.Returns path) {n : String} (hn : n ∈ path) :
    (d.find? n).isSome := by
  obtain ⟨last, hlast, hagain⟩ := h.again
  have hbefore : n ∈ path.dropLast := by
    rw [← List.dropLast_append_getLast? last hlast, List.mem_append, List.mem_singleton] at hn
    rcases hn with hn | rfl
    · exact hn
    · exact hagain
  obtain ⟨next, hnext⟩ := exists_next h.mentions hbefore
  exact declared_of_mentions hnext

end Declarations

/-! ## The path that is reported -/

namespace Manifest

variable {m : Manifest} {known : WellKnownTypes} {path : List String}

/-- A way from a handler, from one declared record to the next that it mentions, to the first
record that comes again. -/
structure RecursivePath (m : Manifest) (known : WellKnownTypes) (path : List String) : Prop where
  two_le_length : 2 ≤ path.length
  start : ∃ first ∈ path.head?, ∃ spec ∈ m.handlers, spec.Mentions first
  declared : ∀ n ∈ path, ∃ spec ∈ m.records, spec.name = n
  mentions : path.IsChain (m.declarations known).Mentions
  distinct : path.dropLast.Nodup
  again : ∃ last ∈ path.getLast?, last ∈ path.dropLast

/-- **The reported path is genuine.** When a manifest does not resolve because of a record that
contains itself, the path that is told leads from a handler to that record and back to it. -/
theorem recursivePath_of_resolve (h : m.resolve known = .error (.recursiveRecord path)) :
    m.RecursivePath known path := by
  rw [resolve, bind_eq_error, Declarations.resolveHandlers_nil] at h
  rcases h with h | ⟨_, -, h⟩
  · rcases checkNames_eq_error h with ⟨_, herror⟩ | ⟨_, _, herror⟩
    · cases herror
    · cases herror
  obtain ⟨spec, hspec, herror⟩ := mapM_eq_error h
  obtain ⟨⟨first, hfirst, hmentions⟩, hreturns⟩ := Declarations.returns_of_expandHandler herror
  refine ⟨?_, ⟨first, hfirst, spec, hspec, hmentions⟩, fun n hn => ?_, hreturns.mentions,
    hreturns.distinct, hreturns.again⟩
  · obtain ⟨last, -, hagain⟩ := hreturns.again
    have hpos := List.length_pos_of_mem hagain
    rw [List.length_dropLast] at hpos
    omega
  · obtain ⟨declared, hdeclared⟩ := Option.isSome_iff_exists.1 (hreturns.declared hn)
    exact ⟨declared, Declarations.mem_of_find? hdeclared, Declarations.name_of_find? hdeclared⟩

/-- A manifest whose second handler leads to a record that contains itself: in a list, and, by
way of another record, in the keys of a map. -/
def family : Manifest where
  service := { name := "Family" }
  records :=
    [⟨"Query", [⟨"text", "string"⟩]⟩,
      ⟨"Answer", [⟨"query", "Query"⟩, ⟨"people", "list<Person>"⟩]⟩,
      ⟨"Person", [⟨"name", "string"⟩, ⟨"home", "Home"⟩]⟩,
      ⟨"Home", [⟨"shares", "map<string, [map<Person, f64>]>"⟩]⟩]
  handlers :=
    [{ name := "Echo", method := .get, route := "/echo", request := "Query", response := "Query" },
      { name := "Find", method := .post, route := "/find", request := "Query",
        response := "Answer" }]

/-- The way goes in from outside the circle, and around it once. -/
theorem recursivePath_family :
    family.resolve .standard = .error (.recursiveRecord ["Answer", "Person", "Home", "Person"]) ∧
      family.RecursivePath .standard ["Answer", "Person", "Home", "Person"] := by
  have hresolve : family.resolve .standard =
      .error (.recursiveRecord ["Answer", "Person", "Home", "Person"]) := by
    rw [resolve, Declarations.resolveHandlers_nil]
    decide +kernel
  exact ⟨hresolve, recursivePath_of_resolve hresolve⟩

end Manifest

end ServiceSchema
