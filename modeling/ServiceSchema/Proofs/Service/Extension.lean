/-
What handlers added at the end do to a service: nothing to what is there already. If the records of
some handlers can be told, and those with more handlers behind them can, the first are a first part
of the second, and the same holds of the messages and the methods of the two documents; no file
that one imports is missing in the other. If the first handlers collide, the others behind them
change nothing about it, the name told included (`append_handlers`).

Both halves come from one equation: the walk for all handlers is the walk for the first ones, and
goes on from there only if it has not ended (`collectRecords_append`).
-/
import Mathlib.Data.List.Infix
import ServiceSchema.Proofs.Discovery.Order
import ServiceSchema.Proofs.Service.Imports
import ServiceSchema.Proofs.Service.References

namespace ServiceSchema

variable {known : WellKnownTypes} {hs extra : List Handler}

/-! ## The records -/

theorem collectRecords_append :
    collectRecords known (hs ++ extra) =
      ((Walk.takeAll (hs.flatMap (·.visits known)) .empty).andThen
        (Walk.takeAll (extra.flatMap (·.visits known)))).result := by
  rw [collectRecords_eq, List.flatMap_append, Walk.takeAll_append]

/-- A collision stays the first one. -/
theorem collectRecords_append_error {e : GenerationError}
    (h : collectRecords known hs = .error e) : collectRecords known (hs ++ extra) = .error e := by
  rw [collectRecords_eq] at h
  obtain ⟨c, hc, -⟩ := Walk.result_eq_error.1 h
  rw [collectRecords_append, Walk.andThen_of_some hc, h]

/-- Records that are told with more handlers are told without them, and stand first. -/
theorem exists_collectRecords_prefix {records' : List Record}
    (h : collectRecords known (hs ++ extra) = .ok records') :
    ∃ records, collectRecords known hs = .ok records ∧ records <+: records' := by
  rw [collectRecords_append] at h
  cases hc : (Walk.takeAll (hs.flatMap (·.visits known)) .empty).collision with
  | some c =>
    rw [Walk.andThen_of_some hc, Walk.result_eq_ok, hc] at h
    exact absurd h.1 nofun
  | none =>
    rw [Walk.andThen_of_none hc, Walk.result_eq_ok] at h
    obtain ⟨hrest, rfl⟩ := h
    refine ⟨_, by rw [collectRecords_eq, Walk.result_eq_ok]; exact ⟨hc, rfl⟩, ?_⟩
    rw [Walk.toList_takeAll (Walk.indexed_takeAll RecordSet.indexed_empty) hrest]
    exact List.prefix_append _ _

/-! ## The documents -/

/-- A document that has all that another one has, and has it in the same place. What is new
stands behind; imports alone are in order of their names. -/
structure Document.Extends (d' d : Document) : Prop where
  messages : d.messages <+: d'.messages
  rpcs : d.rpcs <+: d'.rpcs
  imports : d.imports ⊆ d'.imports

namespace Service

theorem document_extends {s s' : Service} (hrecords : s.records <+: s'.records)
    (hhandlers : s.handlers <+: s'.handlers) (layout : Layout) :
    (s'.document known layout).Extends (s.document known layout) where
  messages := hrecords.map _
  rpcs := hhandlers.map _
  imports := by
    refine List.cons_subset_cons _ fun file hfile => ?_
    obtain ⟨shape, hshape, hneeds⟩ := mem_sortedFiles.1 hfile
    obtain ⟨r, hr, hfield⟩ := List.mem_flatMap.1 hshape
    exact mem_sortedFiles.2
      ⟨shape, List.mem_flatMap.2 ⟨r, hrecords.subset hr, hfield⟩, hneeds⟩

/-- **Handlers added at the end.** When the records of some handlers collide, they collide with
any handlers behind them, and by the same name. When there is a service with all of them, there is
one with the first ones; its records are a first part of the others, and its document is extended
by the other document. -/
theorem append_handlers (known : WellKnownTypes) (hs extra : List Handler) :
    (∀ e, collectRecords known hs = .error e → collectRecords known (hs ++ extra) = .error e) ∧
    ∀ records', collectRecords known (hs ++ extra) = .ok records' →
      ∃ records, collectRecords known hs = .ok records ∧ records <+: records' ∧
        ∀ info, ∃ s s', make known info hs = .ok s ∧ make known info (hs ++ extra) = .ok s' ∧
          ∀ layout, (s'.document known layout).Extends (s.document known layout) := by
  refine ⟨fun e => collectRecords_append_error, fun records' h => ?_⟩
  obtain ⟨records, hrecords, hprefix⟩ := exists_collectRecords_prefix h
  refine ⟨records, hrecords, hprefix, fun info => ?_⟩
  refine ⟨_, _, make_eq_ok.2 ⟨records, hrecords, rfl⟩, make_eq_ok.2 ⟨records', h, rfl⟩, ?_⟩
  exact document_extends hprefix (List.prefix_append hs extra)

end Service

end ServiceSchema
