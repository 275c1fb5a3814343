/-
The order of handlers decides the order of a document and nothing else: handlers in another order
make a service whenever these do, and its document has the same messages and the same methods in
some other order, and imports the same files in the same order (`make_of_perm`).

The walk for records goes a different way when handlers change places: other records are met
first, other parts are left out, and of two records that clash the other one may come first. But
which records are needed is told without any order (`Needed`), and so is when there is an answer
at all (`exists_collectRecords_iff`); the files that are imported stand in an order of their own.
-/
import Mathlib.Data.List.Nodup
import ServiceSchema.Proofs.Service.Imports
import ServiceSchema.Proofs.Service.References

namespace ServiceSchema

variable {known : WellKnownTypes} {hs hs' : List Handler}

/-! ## The records -/

theorem Needed.mono (h : hs ⊆ hs') {r : Record} (hr : Needed known hs r) :
    Needed known hs' r := by
  induction hr with
  | request hh => exact .request (h hh)
  | response hh => exact .response (h hh)
  | nested _ hf hw hk ih => exact .nested ih hf hw hk

theorem needed_of_perm (h : hs.Perm hs') {r : Record} : Needed known hs r ↔ Needed known hs' r :=
  ⟨Needed.mono h.subset, Needed.mono h.symm.subset⟩

theorem exists_collectRecords_of_perm (h : hs.Perm hs') :
    (∃ records, collectRecords known hs = .ok records) ↔
      ∃ records, collectRecords known hs' = .ok records := by
  simp only [exists_collectRecords_iff, needed_of_perm h]

theorem collectRecords_perm (h : hs.Perm hs') {records records' : List Record}
    (hr : collectRecords known hs = .ok records) (hr' : collectRecords known hs' = .ok records') :
    records.Perm records' := by
  have hnodup : records.Nodup := .of_map _ (nodup_names_collectRecords hr)
  have hnodup' : records'.Nodup := .of_map _ (nodup_names_collectRecords hr')
  refine (List.perm_ext_iff_of_nodup hnodup hnodup').2 fun r => ?_
  rw [mem_collectRecords hr, mem_collectRecords hr', needed_of_perm h]

/-! ## The documents -/

/-- Two documents differ at most in the order of their messages and of their methods. -/
structure Document.SameButOrder (d d' : Document) : Prop where
  messages : d.messages.Perm d'.messages
  rpcs : d.rpcs.Perm d'.rpcs
  imports : d.imports = d'.imports
  syntaxName : d.syntaxName = d'.syntaxName
  package : d.package = d'.package
  goPackage : d.goPackage = d'.goPackage
  service : d.service = d'.service
  layout : d.layout = d'.layout

namespace Service

theorem document_sameButOrder {s s' : Service} (hinfo : s.info = s'.info)
    (hhandlers : s.handlers.Perm s'.handlers) (hrecords : s.records.Perm s'.records)
    (layout : Layout) : (s.document known layout).SameButOrder (s'.document known layout) where
  messages := hrecords.map _
  rpcs := hhandlers.map _
  imports := by
    have hshapes : (s.records.flatMap fun r => r.fields.map (·.shape)).Perm
        (s'.records.flatMap fun r => r.fields.map (·.shape)) := hrecords.flatMap_right _
    rw [document, document, sortedFiles_congr fun _ => hshapes.mem_iff]
  syntaxName := rfl
  package := by rw [document, document, hinfo]
  goPackage := by rw [document, document, hinfo]
  service := by rw [document, document, hinfo]
  layout := rfl

/-- **The order of handlers.** Handlers make a service exactly when they do in any other order, and
the two documents then differ only in the order of their messages and of their methods. -/
theorem make_of_perm (known : WellKnownTypes) (info : ServiceInfo) (h : hs.Perm hs') :
    ((∃ s, make known info hs = .ok s) ↔ ∃ s', make known info hs' = .ok s') ∧
    ∀ s s', make known info hs = .ok s → make known info hs' = .ok s' →
      ∀ layout, (s.document known layout).SameButOrder (s'.document known layout) := by
  constructor
  · have hexists : ∀ hs, (∃ s, make known info hs = .ok s) ↔
        ∃ records, collectRecords known hs = .ok records := by
      intro hs
      simp only [make_eq_ok]
      exact ⟨fun ⟨_, records, hr, _⟩ => ⟨records, hr⟩, fun ⟨records, hr⟩ => ⟨_, records, hr, rfl⟩⟩
    rw [hexists, hexists, exists_collectRecords_of_perm h]
  · intro s s' hs hs' layout
    obtain ⟨records, hr, rfl⟩ := make_eq_ok.1 hs
    obtain ⟨records', hr', rfl⟩ := make_eq_ok.1 hs'
    have hrecords : records.Perm records' := collectRecords_perm h hr hr'
    exact document_sameButOrder (by rfl) h hrecords layout

/-! ## Two methods that share records -/

/-- A method with the response of another one, and a record of its own in the request. -/
def sampleBrowse : Handler where
  name := "Browse"
  request := .ofFields "Browse" [("page", .record (.ofFields "Page" [("since", .scalar .timestamp)]))]
  response := sampleLookup.response
  method := .get
  route := "/entries"
  authentication := .anyone
  permissions := []

/-- The service with the new method behind the other one. -/
def sampleBrowseLast : Service where
  info := { name := "Lookup" }
  handlers := [sampleLookup, sampleBrowse]
  records := [sampleEntry, sampleLookup.request, sampleLookup.response,
    .ofFields "Page" [("since", .scalar .timestamp)], sampleBrowse.request]

/-- The service with the new method in front: no record keeps its place. -/
def sampleBrowseFirst : Service where
  info := { name := "Lookup" }
  handlers := [sampleBrowse, sampleLookup]
  records := [.ofFields "Page" [("since", .scalar .timestamp)], sampleEntry, sampleBrowse.request,
    sampleLookup.response, sampleLookup.request]

theorem make_sampleBrowseLast :
    make .empty { name := "Lookup" } [sampleLookup, sampleBrowse] = .ok sampleBrowseLast :=
  make_eq_ok.2 ⟨_, collectRecords_eq_ok.2 ⟨by decide, by decide⟩, rfl⟩

theorem make_sampleBrowseFirst :
    make .empty { name := "Lookup" } [sampleBrowse, sampleLookup] = .ok sampleBrowseFirst :=
  make_eq_ok.2 ⟨_, collectRecords_eq_ok.2 ⟨by decide, by decide⟩, rfl⟩

/-- The two methods change places. -/
theorem make_of_perm_sampleBrowse :
    [sampleLookup, sampleBrowse].Perm [sampleBrowse, sampleLookup] ∧
      sampleBrowseLast.records ≠ sampleBrowseFirst.records ∧
      (sampleBrowseLast.document .empty .nameFirst).SameButOrder
        (sampleBrowseFirst.document .empty .nameFirst) := by
  have hswap : [sampleLookup, sampleBrowse].Perm [sampleBrowse, sampleLookup] := .swap _ _ _
  have h := make_of_perm .empty { name := "Lookup" } hswap
  exact ⟨hswap, by decide, h.2 _ _ make_sampleBrowseLast make_sampleBrowseFirst .nameFirst⟩

end Service

end ServiceSchema
