/-
The files that a document imports: first the one with the rules for HTTP, then, in strictly
increasing order, those that its fields need and no others (`document_imports`).

What a field needs is told from the shape itself: it needs a file when a timestamp, a duration or
a record that the table places in that file stands anywhere in it (`Contains`), inside sequences
and on both sides of maps. The fields of a record that stands in a shape are not part of it, so a
well-known record asks for its own file alone, whatever fields it has.

The table may place a record in the file with the rules for HTTP too, since its paths are free
text. A document with such a record in a field imports that file twice, and this is the one way
in which it can import a file twice (`imports_nodup_iff`).
-/
import Mathlib.Data.List.Nodup
import ServiceSchema.Config
import ServiceSchema.Proofs.Discovery.Order
import ServiceSchema.Proofs.Keyed.Table
import ServiceSchema.Service

namespace ServiceSchema

open WellKnownTypes

namespace Shape

/-- A shape stands in another one: it is that shape, or stands in its elements, its keys or its
values. -/
inductive Contains : Shape → Shape → Prop
  | self {s : Shape} : Contains s s
  | element {element s : Shape} : Contains element s → Contains (.sequence element) s
  | key {key value s : Shape} : Contains key s → Contains (.map key value) s
  | value {key value s : Shape} : Contains value s → Contains (.map key value) s

/-- The file that defines what a shape is written as: times have files of their own, and a record
has the one that its entry in the table names. -/
inductive DefinedIn (known : WellKnownTypes) : Shape → String → Prop
  | timestamp : DefinedIn known (.scalar .timestamp) timestampFile
  | duration : DefinedIn known (.scalar .duration) durationFile
  | wellKnown {r : Record} {entry : WellKnownType} {file : String} :
      known.get? r.name = some entry → entry.importPath = some file → DefinedIn known (.record r) file

/-- A shape needs a file that defines something in it. -/
def Needs (known : WellKnownTypes) (s : Shape) (file : String) : Prop :=
  ∃ part, s.Contains part ∧ part.DefinedIn known file

variable {known : WellKnownTypes} {file : String}

theorem needs_scalar {kind : Scalar} :
    (scalar kind).Needs known file ↔ (scalar kind).DefinedIn known file := by
  constructor
  · rintro ⟨_, ⟨⟩, hfile⟩
    exact hfile
  · exact fun hfile => ⟨_, .self, hfile⟩

theorem needs_record {r : Record} :
    (record r).Needs known file ↔ (record r).DefinedIn known file := by
  constructor
  · rintro ⟨_, ⟨⟩, hfile⟩
    exact hfile
  · exact fun hfile => ⟨_, .self, hfile⟩

theorem needs_sequence {element : Shape} :
    (sequence element).Needs known file ↔ element.Needs known file := by
  constructor
  · rintro ⟨part, hpart, hfile⟩
    cases hpart with
    | self => cases hfile
    | element hpart => exact ⟨part, hpart, hfile⟩
  · rintro ⟨part, hpart, hfile⟩
    exact ⟨part, .element hpart, hfile⟩

theorem needs_map {key value : Shape} :
    (map key value).Needs known file ↔ key.Needs known file ∨ value.Needs known file := by
  constructor
  · rintro ⟨part, hpart, hfile⟩
    cases hpart with
    | self => cases hfile
    | key hpart => exact .inl ⟨part, hpart, hfile⟩
    | value hpart => exact .inr ⟨part, hpart, hfile⟩
  · rintro (⟨part, hpart, hfile⟩ | ⟨part, hpart, hfile⟩)
    · exact ⟨part, .key hpart, hfile⟩
    · exact ⟨part, .value hpart, hfile⟩

/-- What is written with a file other than those of the times is a record of the table. -/
theorem DefinedIn.exists_wellKnown {s : Shape} (h : s.DefinedIn known file)
    (htimestamp : file ≠ timestampFile) (hduration : file ≠ durationFile) :
    ∃ q entry, s = .record q ∧ known.get? q.name = some entry ∧ entry.importPath = some file := by
  cases h with
  | timestamp => exact absurd rfl htimestamp
  | duration => exact absurd rfl hduration
  | wellKnown hentry hfile => exact ⟨_, _, rfl, hentry, hfile⟩

/-- The files met in a shape are those that it needs. -/
theorem mem_files : ∀ {s : Shape}, file ∈ s.files known ↔ s.Needs known file
  | .scalar kind => by
    rw [needs_scalar]
    constructor
    · intro h
      cases kind with
      | timestamp => exact List.mem_singleton.1 h ▸ .timestamp
      | duration => exact List.mem_singleton.1 h ▸ .duration
      | _ => cases h
    · rintro (_ | _ | _)
      · exact .head _
      · exact .head _
  | .record r => by
    rw [needs_record, files, Option.mem_toList, Option.bind_eq_some_iff]
    constructor
    · rintro ⟨entry, hentry, hfile⟩
      exact .wellKnown hentry hfile
    · rintro (_ | _ | ⟨hentry, hfile⟩)
      exact ⟨_, hentry, hfile⟩
  | .sequence element => by
    rw [files, needs_sequence, mem_files]
  | .map key value => by
    rw [files, List.mem_append, needs_map, mem_files, mem_files]

end Shape

variable {known : WellKnownTypes}

/-! ## The files of some shapes -/

/-- The files are those that some shape needs. -/
theorem mem_sortedFiles {shapes : List Shape} {file : String} :
    file ∈ sortedFiles known shapes ↔ ∃ shape ∈ shapes, file ∈ shape.files known := by
  rw [sortedFiles, Table.mem_keys_ofList, List.map_map, List.mem_map]
  simp

theorem sortedFiles_increasing (shapes : List Shape) :
    (sortedFiles known shapes).Pairwise (· < ·) :=
  Table.keys_increasing _

/-- The order of the shapes does not matter, nor how often each stands among them. -/
theorem sortedFiles_congr {shapes shapes' : List Shape} (h : ∀ s, s ∈ shapes ↔ s ∈ shapes') :
    sortedFiles known shapes = sortedFiles known shapes' := by
  refine Table.eq_of_increasing (sortedFiles_increasing shapes) (sortedFiles_increasing shapes') ?_
  intro file
  simp only [mem_sortedFiles, h]

/-! ## The imports of a document -/

namespace Service

/-- **What a document imports.** The file with the rules for HTTP comes first. The others are in
strictly increasing order, and are those that some field of some message needs. -/
theorem document_imports (s : Service) (known : WellKnownTypes) (layout : Layout) :
    ∃ files, (s.document known layout).imports = annotationsFile :: files ∧
      files.Pairwise (· < ·) ∧
      ∀ file, file ∈ files ↔ ∃ r ∈ s.records, ∃ f ∈ r.fields, f.shape.Needs known file := by
  refine ⟨_, rfl, sortedFiles_increasing _, fun file => ?_⟩
  rw [mem_sortedFiles]
  constructor
  · rintro ⟨shape, hshape, hfile⟩
    obtain ⟨r, hr, hshape⟩ := List.mem_flatMap.1 hshape
    obtain ⟨f, hf, rfl⟩ := List.mem_map.1 hshape
    exact ⟨r, hr, f, hf, Shape.mem_files.1 hfile⟩
  · rintro ⟨r, hr, f, hf, hneeds⟩
    have hshape : f.shape ∈ s.records.flatMap fun r => r.fields.map (·.shape) :=
      List.mem_flatMap.2 ⟨r, hr, List.mem_map_of_mem hf⟩
    exact ⟨f.shape, hshape, Shape.mem_files.2 hneeds⟩

/-! ## A file that is imported twice -/

/-- In a field of some message stands a record that the table places in the file with the rules
for HTTP. -/
def RefersToAnnotations (s : Service) (known : WellKnownTypes) : Prop :=
  ∃ r ∈ s.records, ∃ f ∈ r.fields, ∃ q entry, f.shape.Contains (.record q) ∧
    known.get? q.name = some entry ∧ entry.importPath = some annotationsFile

theorem annotationsFile_mem_sortedFiles_iff {s : Service} :
    annotationsFile ∈ sortedFiles known (s.records.flatMap fun r => r.fields.map (·.shape)) ↔
      s.RefersToAnnotations known := by
  simp only [mem_sortedFiles, List.mem_flatMap, List.mem_map, Shape.mem_files]
  constructor
  · rintro ⟨_, ⟨r, hr, f, hf, rfl⟩, part, hpart, hfile⟩
    obtain ⟨q, entry, rfl, hentry⟩ := hfile.exists_wellKnown (by decide) (by decide)
    exact ⟨r, hr, f, hf, q, entry, hpart, hentry⟩
  · rintro ⟨r, hr, f, hf, q, entry, hpart, hentry, hfile⟩
    exact ⟨f.shape, ⟨r, hr, f, hf, rfl⟩, .record q, hpart, .wellKnown hentry hfile⟩

theorem nodup_sortedFiles (shapes : List Shape) : (sortedFiles known shapes).Nodup :=
  (Table.ofList _).sorted.nodup_keys

theorem nodup_imports {s : Service} {layout : Layout} (h : ¬ s.RefersToAnnotations known) :
    (s.document known layout).imports.Nodup :=
  List.nodup_cons.2 ⟨mt annotationsFile_mem_sortedFiles_iff.1 h, nodup_sortedFiles _⟩

/-- A record that settings place in a file, if it is not a standard one, is placed there by an
entry of theirs. -/
theorem mem_wellKnown_of_knownTypes {c : Config} {name file : String} {entry : WellKnownType}
    (h : c.knownTypes.get? name = some entry) (hfile : entry.importPath = some file)
    (htimestamp : file ≠ timestampFile) (hduration : file ≠ durationFile) :
    (name, entry) ∈ c.wellKnown.entries := by
  rcases Table.mem_of_mem_extend (Table.mem_of_get? h) with h | h
  · exact h
  · have hstandard : ∀ e ∈ WellKnownTypes.standard.entries,
        e.2.importPath = some timestampFile ∨ e.2.importPath = some durationFile := by
      decide
    rcases hstandard _ h with h | h
    · exact absurd (Option.some.inj (hfile.symm.trans h)) htimestamp
    · exact absurd (Option.some.inj (hfile.symm.trans h)) hduration

/-- **What is imported twice.** A file is imported more than once exactly when it is the one with
the rules for HTTP and the table places there a record that stands in a field. With settings that
name that file in no entry, no file is. -/
theorem imports_nodup_iff (s : Service) (known : WellKnownTypes) (layout : Layout) :
    (∀ file, 1 < (s.document known layout).imports.count file ↔
      file = annotationsFile ∧ s.RefersToAnnotations known) ∧
    ((s.document known layout).imports.Nodup ↔ ¬ s.RefersToAnnotations known) ∧
    ∀ c : Config, (∀ e ∈ c.wellKnown.entries, e.2.importPath ≠ some annotationsFile) →
      (s.document c.knownTypes layout).imports.Nodup := by
  have htwice : ∀ file, 1 < (s.document known layout).imports.count file ↔
      file = annotationsFile ∧ s.RefersToAnnotations known := by
    intro file
    rw [← annotationsFile_mem_sortedFiles_iff]
    by_cases hfile : file = annotationsFile
    · subst hfile
      simp only [true_and, document, List.count_cons_self, ← List.count_pos_iff]
      omega
    · simp only [hfile, false_and, iff_false, Nat.not_lt, document]
      rw [List.count_cons_of_ne (Ne.symm hfile)]
      exact List.nodup_iff_count_le_one.1 (nodup_sortedFiles _) file
  refine ⟨htwice, ⟨?_, nodup_imports⟩, ?_⟩
  · intro hnodup hrefers
    have hcount := (htwice annotationsFile).2 ⟨rfl, hrefers⟩
    exact absurd (List.nodup_iff_count_le_one.1 hnodup annotationsFile) (Nat.not_le.2 hcount)
  · intro c hconfig
    refine nodup_imports ?_
    rintro ⟨_, _, _, _, q, entry, -, hentry, hfile⟩
    exact hconfig _ (mem_wellKnown_of_knownTypes hentry hfile (by decide) (by decide)) hfile

/-- Settings with a well-known type in the file with the rules for HTTP. -/
def sampleRules : Config where
  wellKnown := .ofList [("HttpRule", ⟨"google.api.HttpRule", some annotationsFile⟩)]

/-- A method with that type in its request. -/
def sampleBind : Handler where
  name := "Bind"
  request := .ofFields "BindRequest" [("rule", .record (.bare "HttpRule"))]
  response := .ofFields "BindResponse" [("id", .scalar .text)]
  method := .post
  route := "/bind"
  authentication := .anyone
  permissions := []

/-- The service of that method. -/
def sampleBinding : Service where
  info := { name := "Binding" }
  handlers := [sampleBind]
  records := [sampleBind.request, sampleBind.response]

/-- A document may import a file twice. -/
theorem not_imports_nodup :
    ¬ ∀ (c : Config) (info : ServiceInfo) (handlers : List Handler) (s : Service),
      make c.knownTypes info handlers = .ok s → (s.document c.knownTypes c.layout).imports.Nodup := by
  intro h
  have hmake : make sampleRules.knownTypes { name := "Binding" } [sampleBind] = .ok sampleBinding := by
    rw [make, collectRecords_eq_ok.2 ⟨by decide, rfl⟩]
    decide
  have himports : (sampleBinding.document sampleRules.knownTypes sampleRules.layout).imports =
      [annotationsFile, annotationsFile] := by
    decide
  have hnodup := h sampleRules _ _ _ hmake
  rw [himports] at hnodup
  exact absurd hnodup (by decide)

end Service

end ServiceSchema
