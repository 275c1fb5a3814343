/-
Decoders that read back what has been written. A decoder reads a value from a JSON value
(`Decoder.Reads`) when it gives that value for the JSON value as a document tree, wherever the tree
is said to come from, and in whatever order the entries of objects stand in it. Plain values, lists,
options and tables are read when what is in them is.

A record is read from the entries of its fields (`Decode.record_reads`). Its description is made up
field by field, and the entries of the fields come mixed in any order; what makes one description
after another read them is that each takes the entries with its own names and leaves the rest
alone (`Fields.enter_followedBy`).
-/
import Mathlib.Data.List.Perm.Basic
import ServiceSchema.Decode
import ServiceSchema.Proofs.Except
import ServiceSchema.Proofs.Json.Order

namespace ServiceSchema

theorem Source.follow_toNode (source : Source) (j : Json) : source.follow j.toNode = j.toNode := by
  cases source <;> cases j <;> rfl

/-- A decoder reads a value from a JSON value, whatever the source and the order of entries. -/
def Decoder.Reads {α : Type} (decode : Decoder α) (json : Json) (value : α) : Prop :=
  ∀ (source : Source) (j : Json), json.Reordered j → decode source j.toNode = .ok value

namespace Decode

variable {α : Type} {decode : Decoder α}

/-! ## Plain values -/

theorem textAs_reads (expected : Expected) (s : String) :
    Decoder.Reads (textAs expected) (.text s) s := by
  intro source j h
  cases h
  rw [textAs, source.follow_toNode]
  rfl

theorem text_reads (s : String) : Decoder.Reads text (.text s) s :=
  textAs_reads .text s

theorem unsigned_reads {bits n : Nat} (h : n < Nat.pow 2 bits) :
    Decoder.Reads (unsigned bits) (.integer n) n := by
  intro source j hj
  cases hj
  have hwithin : (0 : Int) ≤ n ∧ (n : Int) ≤ ((Nat.pow 2 bits : Nat) : Int) - 1 := by omega
  rw [unsigned, integerWithin, source.follow_toNode]
  simp only [Json.toNode, if_pos hwithin, Except.map, Int.toNat_natCast]

theorem uint32_reads (n : UInt32) : Decoder.Reads uint32 (.integer n.toNat) n := by
  intro source j h
  rw [uint32, unsigned_reads n.toNat_lt source j h]
  simp [Except.map]

theorem uint64_reads (n : UInt64) : Decoder.Reads uint64 (.integer n.toNat) n := by
  intro source j h
  rw [uint64, unsigned_reads n.toNat_lt source j h]
  simp [Except.map]

/-- An option is read from what its value is written as, which must not be a null, or a null. -/
theorem option_reads {toJson : α → Json} (h : ∀ value, decode.Reads (toJson value) value)
    (hnull : ∀ value, toJson value ≠ .null) {json : Json} {value : Option α}
    (hjson : json = value.elim .null toJson) : Decoder.Reads (option decode) json value := by
  subst hjson
  intro source j hj
  rw [option, source.follow_toNode]
  cases value with
  | none =>
    cases hj
    rfl
  | some value =>
    change (toJson value).Reordered j at hj
    have hread := congrArg (Except.map some) (h value source j hj)
    have hnone := hnull value
    generalize toJson value = json at hj hnone
    cases hj with
    | null => exact absurd rfl hnone
    | _ => exact hread

theorem variant_reads {known : List (String × α)} {name : String} {value : α}
    (h : known.lookup name = some value) : Decoder.Reads (variant known) (.text name) value := by
  intro source j hj
  cases hj
  rw [variant, source.follow_toNode]
  simp only [Json.toNode, pick, h]

/-! ## Collections -/

theorem list_reads {toJson : α → Json} (h : ∀ value, decode.Reads (toJson value) value)
    (values : List α) : Decoder.Reads (list decode) (.array (values.map toJson)) values := by
  intro source j hj
  cases hj with
  | array hitems =>
    rename_i items
    have hread : Decode.items decode source (Json.toNodes items) = .ok values := by
      induction values generalizing items with
      | nil =>
        cases hitems
        rfl
      | cons value rest ih =>
        cases hitems with
        | cons hitem hrest =>
          simp only [Json.toNodes, Decode.items, h value source _ hitem, ih hrest]
          rfl
    rw [list, source.follow_toNode]
    exact hread

theorem key_text (source : Source) (s : String) : key source (.text s) = .ok s := by
  cases source <;> rfl

/-- An entry holds what is to be read as the value beside its key. -/
def EntryReads (decode : Decoder α) (source : Source) (entry : String × Json) (e : String × α) :
    Prop :=
  entry.1 = e.1 ∧ decode source entry.2.toNode = .ok e.2

theorem entries_eq {source : Source} {entries : List (String × Json)} {es : List (String × α)}
    (h : List.Forall₂ (EntryReads decode source) entries es) (t : Table α) :
    Decode.entries decode source t (Json.toNodeEntries entries) = .ok (t.extend es) := by
  induction h generalizing t with
  | nil => rfl
  | @cons entry e entries es hentry _ ih =>
    obtain ⟨key, json⟩ := entry
    obtain ⟨rfl, hvalue⟩ := hentry
    simp only [Json.toNodeEntries, Decode.entries, key_text, hvalue]
    exact ih _

theorem forall₂_entryReads {toJson : α → Json} (h : ∀ value, decode.Reads (toJson value) value)
    (source : Source) {es : List (String × α)} {entries : List (String × Json)}
    (he : Json.ReorderedEntries (es.map fun e => (e.1, toJson e.2)) entries) :
    List.Forall₂ (EntryReads decode source) entries es := by
  induction es generalizing entries with
  | nil =>
    cases he
    exact .nil
  | cons e rest ih =>
    cases he with
    | cons hvalue hrest => exact .cons ⟨rfl, h e.2 source _ hvalue⟩ (ih hrest)

theorem table_reads {toJson : α → Json} (h : ∀ value, decode.Reads (toJson value) value)
    (t : Table α) :
    Decoder.Reads (table decode) (.object (t.entries.map fun e => (e.1, toJson e.2))) t := by
  intro source j hj
  cases hj with
  | object hentries hperm =>
    obtain ⟨es, hes, hperm⟩ := List.perm_comp_forall₂ hperm (forall₂_entryReads h source hentries)
    rw [table, source.follow_toNode]
    change Decode.entries decode source .empty _ = _
    rw [entries_eq hes, ← Table.ofList_eq_of_perm hperm]
    rfl

end Decode

/-! ## Fields -/

namespace Fields

variable {α β : Type}

theorem enter_cons (fields : Fields α) (source : Source) (slots : fields.Slots) (key : String)
    (node : Node) (rest : List (Node × Node)) :
    fields.enter source slots ((.text key, node) :: rest) =
      match fields.put source slots key node with
      | some result => result >>= fun slots => fields.enter source slots rest
      | Option.none => Decode.skip node >>= fun _ => fields.enter source slots rest := by
  rw [enter, Decode.key_text]
  rfl

theorem enter_map (fields : Fields α) (g : α → β) (source : Source) (slots : fields.Slots)
    (nodes : List (Node × Node)) :
    (fields.map g).enter source slots nodes = fields.enter source slots nodes := by
  induction nodes generalizing slots with
  | nil => rfl
  | cons e rest ih =>
    obtain ⟨k, v⟩ := e
    simp only [enter]
    refine congrArg _ (funext fun name => ?_)
    have hsame : (fields.map g).put source slots name v = fields.put source slots name v := rfl
    cases hput : fields.put source slots name v with
    | none =>
      rw [hsame.trans hput]
      exact congrArg _ (funext fun _ => ih slots)
    | some result =>
      rw [hsame.trans hput]
      exact congrArg (result >>= ·) (funext ih)

/-- Some fields have these names. -/
def Named (fields : Fields α) (names : List String) : Prop :=
  ∀ source slots key node, (fields.put source slots key node).isSome = true ↔ key ∈ names

theorem Named.put_eq_none {fields : Fields α} {names : List String} (h : fields.Named names)
    {key : String} (hkey : key ∉ names) (source : Source) (slots : fields.Slots) (node : Node) :
    fields.put source slots key node = Option.none :=
  Option.not_isSome_iff_eq_none.1 fun hsome => hkey ((h source slots key node).1 hsome)

/-- Entries for two groups of fields, mixed in any order: each group takes those of its names. -/
theorem enter_followedBy {f : Fields (α → β)} {a : Fields α} {names : List String}
    (hf : f.Named names) (source : Source) {entries : List (String × Json)}
    {sf sf' : f.Slots} {sa sa' : a.Slots}
    (h : f.enter source sf (Json.toNodeEntries (entries.filter fun e => e.1 ∈ names)) = .ok sf')
    (h' : a.enter source sa (Json.toNodeEntries (entries.filter fun e => e.1 ∉ names)) = .ok sa') :
    (f.followedBy a).enter source (sf, sa) (Json.toNodeEntries entries) = .ok (sf', sa') := by
  induction entries generalizing sf sa with
  | nil =>
    cases h
    cases h'
    rfl
  | cons e rest ih =>
    obtain ⟨key, json⟩ := e
    refine (enter_cons (f.followedBy a) source (sf, sa) key json.toNode _).trans ?_
    by_cases hkey : key ∈ names
    · rw [List.filter_cons_of_pos (by simpa using hkey), Json.toNodeEntries, enter_cons] at h
      rw [List.filter_cons_of_neg (by simpa using hkey)] at h'
      obtain ⟨result, hput⟩ := Option.isSome_iff_exists.1 ((hf source sf key json.toNode).2 hkey)
      simp only [hput, bind_eq_ok] at h
      obtain ⟨slots, rfl, h⟩ := h
      simp only [followedBy, hput]
      exact ih h h'
    · rw [List.filter_cons_of_neg (by simpa using hkey)] at h
      rw [List.filter_cons_of_pos (by simpa using hkey), Json.toNodeEntries, enter_cons] at h'
      simp only [followedBy, hf.put_eq_none hkey]
      cases hput : a.put source sa key json.toNode with
      | none =>
        simp only [hput, bind_eq_ok] at h'
        obtain ⟨_, hskip, h'⟩ := h'
        simp only [Option.map_none, hskip]
        exact ih h h'
      | some result =>
        simp only [hput, bind_eq_ok] at h'
        obtain ⟨slots, rfl, h'⟩ := h'
        simp only [Option.map_some]
        exact ih h h'

/-- Fields of these names read a value from some entries, in whatever order these stand. -/
structure Reads (fields : Fields α) (names : List String) (entries : List (String × Json))
    (value : α) : Prop where
  named : fields.Named names
  keys : ∀ key ∈ entries.map (·.1), key ∈ names
  enter : ∀ source entries' entries'', Json.ReorderedEntries entries entries' →
    entries''.Perm entries' →
      ∃ slots, fields.enter source fields.start (Json.toNodeEntries entries'') = .ok slots ∧
        fields.finish slots = .ok value

namespace Reads

theorem one {name : String} {others : List String} {decode : Decoder α}
    {missing : Except DecodeError α} {short : Option α} {json : Json} {value : α}
    (h : decode.Reads json value) :
    (Fields.one name others decode missing short).Reads (name :: others) [(name, json)] value where
  named source slots key node := by
    simp only [Fields.one, List.mem_cons]
    split <;> simp_all
  keys := by simp
  enter source entries' entries'' hentries hperm := by
    cases hentries with
    | cons hvalue hrest =>
      cases hrest
      cases List.perm_singleton.1 hperm
      refine ⟨some value, ?_, rfl⟩
      rw [Json.toNodeEntries, enter_cons]
      simp only [Fields.one, true_or, if_true, h source _ hvalue]
      rfl

theorem required {name : String} {decode : Decoder α} {json : Json} {value : α}
    (h : decode.Reads json value) :
    (Fields.required name decode).Reads [name] [(name, json)] value :=
  one h

theorem withDefault {name : String} {others : List String} {decode : Decoder α} {default : α}
    {json : Json} {value : α} (h : decode.Reads json value) :
    (Fields.withDefault name default decode others).Reads (name :: others) [(name, json)] value :=
  one h

theorem map {fields : Fields α} {names : List String} {entries : List (String × Json)} {value : α}
    (f : α → β) (h : fields.Reads names entries value) :
    (fields.map f).Reads names entries (f value) where
  named := h.named
  keys := h.keys
  enter source entries' entries'' hentries hperm := by
    obtain ⟨slots, henter, hfinish⟩ := h.enter source entries' entries'' hentries hperm
    exact ⟨slots, (fields.enter_map f source _ _).trans henter, congrArg (Except.map f) hfinish⟩

theorem followedBy {f : Fields (α → β)} {a : Fields α} {names names' : List String}
    {entries entries' : List (String × Json)} {g : α → β} {value : α}
    (hf : f.Reads names entries g) (ha : a.Reads names' entries' value)
    (hapart : ∀ name ∈ names', name ∉ names) :
    (f.followedBy a).Reads (names ++ names') (entries ++ entries') (g value) where
  named source slots key node := by
    rw [List.mem_append, ← hf.named source slots.1 key node, ← ha.named source slots.2 key node]
    simp only [Fields.followedBy]
    cases f.put source slots.1 key node <;> simp
  keys key hkey := by
    rw [List.map_append, List.mem_append] at hkey
    exact List.mem_append.2 (hkey.imp (hf.keys key) (ha.keys key))
  enter source mixed mixed' hentries hperm := by
    obtain ⟨first, second, rfl, hfirst, hsecond⟩ := hentries.append_left
    have hin : ∀ e ∈ first, e.1 ∈ names := fun e he =>
      hf.keys e.1 (hfirst.keys_eq ▸ List.mem_map_of_mem he)
    have hout : ∀ e ∈ second, e.1 ∉ names := fun e he =>
      hapart e.1 (ha.keys e.1 (hsecond.keys_eq ▸ List.mem_map_of_mem he))
    have hmine : (mixed'.filter fun e => e.1 ∈ names).Perm first := by
      refine (hperm.filter _).trans (.of_eq ?_)
      rw [List.filter_append, List.filter_eq_self.2 (by simpa using hin),
        List.filter_eq_nil_iff.2 (by simpa using hout), List.append_nil]
    have hyours : (mixed'.filter fun e => e.1 ∉ names).Perm second := by
      refine (hperm.filter _).trans (.of_eq ?_)
      rw [List.filter_append, List.filter_eq_nil_iff.2 (by simpa using hin),
        List.filter_eq_self.2 (by simpa using hout), List.nil_append]
    obtain ⟨sf, hsf, hg⟩ := hf.enter source _ _ hfirst hmine
    obtain ⟨sa, hsa, hv⟩ := ha.enter source _ _ hsecond hyours
    refine ⟨(sf, sa), enter_followedBy hf.named source hsf hsa, ?_⟩
    simp only [Fields.followedBy, hg, hv]
    rfl

end Reads

end Fields

theorem Decode.record_reads {α : Type} {fields : Fields α} {names : List String}
    {entries : List (String × Json)} {value : α} (name : String)
    (h : fields.Reads names entries value) :
    Decoder.Reads (Decode.record name fields) (.object entries) value := by
  intro source j hj
  cases hj with
  | object hentries hperm =>
    obtain ⟨slots, henter, hfinish⟩ := h.enter source _ _ hentries hperm
    rw [Decode.record, source.follow_toNode]
    simp only [Json.toNode, henter]
    exact hfinish

end ServiceSchema
