/-
More well-known names: the records of a schema under a table and under one with all its names
and others. The records under the larger table are some of those under the smaller one, and a
collision cannot come up. What goes away is what can only be come to by way of a name of the
larger table (`collectRecords_of_larger`).

The two walks are not compared step by step. A name that is left out cuts off all that is nested
below it, but parts of that are met on other ways, later, and from other records, so that even
the order of the records that stay is not the same. What a schema needs is told by chains of
nested records instead (`needed_iff_chain`): a larger table allows fewer of them.
-/
import Mathlib.Data.List.Chain
import ServiceSchema.Proofs.Discovery.Roots
import ServiceSchema.Proofs.Keyed.Table

namespace ServiceSchema

open Relation

variable {known known' : WellKnownTypes} {handlers : List Handler} {records : List Record}

/-! ## Chains of nested records -/

/-- A field of a record is or wraps another record, whatever its name. -/
def Record.Carries (r s : Record) : Prop := ∃ f ∈ r.fields, f.shape.Wraps s

/-- A record is the request or the response of a handler. -/
def IsRoot (handlers : List Handler) (r : Record) : Prop :=
  ∃ handler ∈ handlers, r = handler.request ∨ r = handler.response

/-- Each of some records is nested in the one before it, the first of them in `first`, and the
last of all is `last`. -/
structure Record.Chain (first : Record) (others : List Record) (last : Record) : Prop where
  nested : (first :: others).IsChain Record.Carries
  ends : (first :: others).getLast (List.cons_ne_nil _ _) = last

theorem isChain_and_iff {α : Type} {R : α → α → Prop} {p : α → Prop} {a : α} {l : List α} :
    (a :: l).IsChain (fun x y => R x y ∧ p y) ↔ (a :: l).IsChain R ∧ ∀ y ∈ l, p y := by
  induction l generalizing a with
  | nil => simp
  | cons b rest ih =>
    simp only [List.isChain_cons_cons, ih, List.forall_mem_cons]
    tauto

theorem reflTransGen_holds_iff {r s : Record} : ReflTransGen (Record.Holds known) r s ↔
    ∃ others, r.Chain others s ∧ ∀ q ∈ others, known.contains q.name = false := by
  constructor
  · intro h
    obtain ⟨others, hchain, hlast⟩ := List.exists_isChain_cons_of_relationReflTransGen h
    obtain ⟨hnested, happart⟩ := isChain_and_iff.1 hchain
    exact ⟨others, ⟨hnested, hlast⟩, happart⟩
  · rintro ⟨others, ⟨hnested, hlast⟩, happart⟩
    exact List.relationReflTransGen_of_exists_isChain_cons others
      (isChain_and_iff.2 ⟨hnested, happart⟩) hlast

/-! ## What is needed, by chains -/

theorem Needed.of_isRoot {r : Record} (h : IsRoot handlers r) : Needed known handlers r := by
  obtain ⟨handler, hh, rfl | rfl⟩ := h
  · exact .request hh
  · exact .response hh

theorem needed_iff_reflTransGen {r : Record} : Needed known handlers r ↔
    ∃ root, IsRoot handlers root ∧ ReflTransGen (Record.Holds known) root r := by
  constructor
  · intro h
    induction h with
    | request hh => exact ⟨_, ⟨_, hh, .inl rfl⟩, .refl⟩
    | response hh => exact ⟨_, ⟨_, hh, .inr rfl⟩, .refl⟩
    | nested _ hf hw hk ih =>
      obtain ⟨root, hroot, hreach⟩ := ih
      exact ⟨root, hroot, hreach.tail ⟨⟨_, hf, hw⟩, hk⟩⟩
  · rintro ⟨root, hroot, hreach⟩
    induction hreach with
    | refl => exact .of_isRoot hroot
    | tail _ hheld ih =>
      obtain ⟨⟨f, hf, hw⟩, hk⟩ := hheld
      exact .nested ih hf hw hk

/-- A record is needed when a chain comes to it from a request or a response and has no
well-known name behind its first record. -/
theorem needed_iff_chain {r : Record} : Needed known handlers r ↔
    ∃ root others, IsRoot handlers root ∧ root.Chain others r ∧
      ∀ q ∈ others, known.contains q.name = false := by
  simp only [needed_iff_reflTransGen, reflTransGen_holds_iff]
  constructor
  · rintro ⟨root, hroot, others, hchain, happart⟩
    exact ⟨root, others, hroot, hchain, happart⟩
  · rintro ⟨root, others, hroot, hchain, happart⟩
    exact ⟨root, hroot, others, hchain, happart⟩

/-- What is needed under the larger table is needed under the smaller one. -/
theorem Needed.of_larger (hmore : known.keys ⊆ known'.keys) {r : Record}
    (h : Needed known' handlers r) : Needed known handlers r := by
  obtain ⟨root, others, hroot, hchain, happart⟩ := needed_iff_chain.1 h
  refine needed_iff_chain.2 ⟨root, others, hroot, hchain, fun q hq => ?_⟩
  have hnot : q.name ∉ known'.keys := by
    rw [← Table.contains_iff_mem_keys, happart q hq]
    exact Bool.false_ne_true
  rw [Bool.eq_false_iff, ne_eq, Table.contains_iff_mem_keys]
  exact fun hk => hnot (hmore hk)

/-! ## The records of a schema -/

/-- **A larger table only leaves records out.** When the records of a schema are found under a
table, they are found under each table that has all its names, and are then some of those found
before. One of those is left out exactly when it is no request or response and each chain that
comes to it from a request or a response has a name of the larger table behind its first record. -/
theorem collectRecords_of_larger (hmore : known.keys ⊆ known'.keys)
    (h : collectRecords known handlers = .ok records) :
    ∃ records', collectRecords known' handlers = .ok records' ∧ (∀ r ∈ records', r ∈ records) ∧
      ∀ r ∈ records, r ∉ records' ↔ ¬ IsRoot handlers r ∧
        ∀ root others, IsRoot handlers root → root.Chain others r →
          ∃ q ∈ others, known'.contains q.name = true := by
  obtain ⟨records', h'⟩ : ∃ records', collectRecords known' handlers = .ok records' := by
    refine exists_collectRecords_iff.2 fun r s hr hs => ?_
    exact exists_collectRecords_iff.1 ⟨records, h⟩ r s (hr.of_larger hmore) (hs.of_larger hmore)
  refine ⟨records', h', fun r hr => ?_, fun r _ => ?_⟩
  · rw [mem_collectRecords h'] at hr
    exact (mem_collectRecords h).2 (hr.of_larger hmore)
  rw [mem_collectRecords h', needed_iff_chain]
  constructor
  · intro hnot
    refine ⟨fun hroot => hnot ⟨r, [], hroot, ⟨.singleton r, rfl⟩, nofun⟩, ?_⟩
    intro root others hroot hchain
    by_contra hnone
    refine hnot ⟨root, others, hroot, hchain, fun q hq => ?_⟩
    exact Bool.eq_false_iff.2 fun hk => hnone ⟨q, hq, hk⟩
  · rintro ⟨-, hall⟩ ⟨root, others, hroot, hchain, happart⟩
    obtain ⟨q, hq, hk⟩ := hall root others hroot hchain
    rw [happart q hq] at hk
    cases hk

/-! ## A record that goes away with the one around it -/

def samplePrice : Record := .ofFields "Price" [("cents", .scalar .int64)]

/-- A handler with two records nested below `Order` in its request, one of which is nested in its
response too. -/
def samplePack : Handler where
  name := "Pack"
  request := .ofFields "Parcel" [("order", .record (.ofFields "Order"
    [("price", .record samplePrice), ("item", .record sampleItem)]))]
  response := .ofFields "Packed" [("items", .sequence (.record sampleItem))]
  method := .post
  route := "/pack"
  authentication := .anyone
  permissions := []

/-- The standard names and `Order`. -/
def sampleOrders : WellKnownTypes := WellKnownTypes.standard.insert "Order" ⟨"shop.Order", none⟩

theorem collectRecords_samplePack :
    collectRecords .standard [samplePack] =
      .ok [.ofFields "Order" [("price", .record samplePrice), ("item", .record sampleItem)],
        samplePrice, sampleItem, samplePack.request, samplePack.response] ∧
    collectRecords sampleOrders [samplePack] =
      .ok [sampleItem, samplePack.request, samplePack.response] :=
  ⟨collectRecords_eq_ok.2 ⟨by decide, by decide⟩, collectRecords_eq_ok.2 ⟨by decide, by decide⟩⟩

/-- With `Order` a well-known name the price goes away, since no chain comes to it but by way of
that name; the item stays. -/
theorem collectRecords_of_larger_samplePack :
    WellKnownTypes.standard.keys ⊆ sampleOrders.keys ∧ sampleItem ≠ samplePrice ∧
      collectRecords sampleOrders [samplePack] =
        .ok [sampleItem, samplePack.request, samplePack.response] ∧
      ∀ root others, IsRoot [samplePack] root → root.Chain others samplePrice →
        ∃ q ∈ others, sampleOrders.contains q.name = true := by
  have hmore : WellKnownTypes.standard.keys ⊆ sampleOrders.keys := by decide
  obtain ⟨hsmall, hlarge⟩ := collectRecords_samplePack
  obtain ⟨records', hrecords', -, hleft⟩ := collectRecords_of_larger hmore hsmall
  obtain rfl := Except.ok.inj (hlarge.symm.trans hrecords')
  exact ⟨hmore, by decide, hlarge, ((hleft samplePrice (by decide)).1 (by decide)).2⟩

end ServiceSchema
