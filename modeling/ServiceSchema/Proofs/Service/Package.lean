/-
The package of a schema, segment by segment: those of the dotted prefix, the service's name in snake
case, the version (`segments_package`). The prefix is left out when nothing but dots is in it, but
nothing looks at what spelling leaves of the name. Words are made of ASCII letters and digits, so a
name without any of them, such as one in Chinese characters, has an empty segment in the package and
no identifier (`not_package_and_ident`). Any other name has both, whatever else is in it
(`package_and_ident`).
-/
import Mathlib.Data.List.Basic
import ServiceSchema.Proofs.Document.Lines
import ServiceSchema.Proofs.Text.Words
import ServiceSchema.Service

namespace ServiceSchema

open Text (Lacks lacks_toString)

/-- What stands between the dots of a dotted name. -/
def segments (s : String) : List String := (s.toList.splitOn '.').map String.ofList

theorem segments_append_dot (s t : String) :
    segments (s ++ "." ++ t) = segments s ++ segments t := by
  have happend : (s ++ "." ++ t).toList = s.toList ++ '.' :: t.toList := by simp
  rw [segments, happend, List.splitOn_append_cons_self, List.map_append, segments, segments]

theorem segments_of_lacks {s : String} (h : Lacks ['.'] s) : segments s = [s] := by
  rw [segments, List.splitOn_eq_singleton (h.not_mem List.mem_cons_self), List.map_singleton,
    String.ofList_toList]

theorem lacks_snakeCase (name : String) : Lacks ['.'] (Text.snakeCase name) := by
  intro c hc hdot
  obtain rfl := List.mem_singleton.1 hdot
  exact absurd (Text.isAlphanum_of_mem_snakeCase hc (by decide)) (by decide)

namespace ServiceInfo

/-- The last segment of the package. -/
def versionSegment (info : ServiceInfo) : String := "v" ++ toString info.version.toNat

theorem lacks_versionSegment (info : ServiceInfo) : Lacks ['.'] info.versionSegment :=
  Lacks.append_iff.2 ⟨by decide, lacks_toString _ (by decide)⟩

theorem segments_package (info : ServiceInfo) :
    segments info.package =
      (if info.packagePrefix = "" then [] else segments info.packagePrefix) ++
        [Text.snakeCase info.name, info.versionSegment] := by
  have hversioned : Text.snakeCase info.name ++ ".v" ++ toString info.version.toNat =
      Text.snakeCase info.name ++ "." ++ info.versionSegment := by
    apply String.toList_injective
    simp [versionSegment]
  have hsegments : segments (Text.snakeCase info.name ++ "." ++ info.versionSegment) =
      [Text.snakeCase info.name, info.versionSegment] := by
    rw [segments_append_dot, segments_of_lacks (lacks_snakeCase _),
      segments_of_lacks info.lacks_versionSegment, List.singleton_append]
  simp only [package, hversioned, String.isEmpty_iff]
  split
  · rw [hsegments, List.nil_append]
  · rw [segments_append_dot, hsegments]

/-- No segment of the prefix is empty, if there is one. -/
def CleanPrefix (info : ServiceInfo) : Prop :=
  info.packagePrefix = "" ∨ "" ∉ segments info.packagePrefix

/-- The name has an ASCII letter or digit in it. -/
def Spellable (info : ServiceInfo) : Prop := ∃ c ∈ info.name.toList, c.isAlphanum = true

theorem words_eq_nil_iff_not_spellable (info : ServiceInfo) :
    Text.words info.name.toList = [] ↔ ¬ info.Spellable := by
  simp [Text.words_eq_nil_iff, Spellable]

/-- **Segments of a package.** None is empty exactly when none of the prefix is and the name has an
ASCII letter or digit in it; the service has an identifier exactly when its name has one. -/
theorem package_and_ident (info : ServiceInfo) :
    ("" ∉ segments info.package ↔ info.CleanPrefix ∧ info.Spellable) ∧
      (info.ident ≠ "" ↔ info.Spellable) := by
  have hname : Text.snakeCase info.name = "" ↔ ¬ info.Spellable := by
    rw [Text.snakeCase_eq_empty_iff, words_eq_nil_iff_not_spellable]
  have hversion : info.versionSegment ≠ "" := by simp [versionSegment]
  have hprefix : "" ∉ (if info.packagePrefix = "" then [] else segments info.packagePrefix) ↔
      info.CleanPrefix := by
    by_cases h : info.packagePrefix = "" <;> simp [CleanPrefix, h]
  have hlast : "" ∉ [Text.snakeCase info.name, info.versionSegment] ↔ info.Spellable := by
    rw [List.mem_pair, not_or, @eq_comm _ "" (Text.snakeCase _), hname, not_not]
    exact and_iff_left hversion.symm
  constructor
  · rw [segments_package, List.mem_append, not_or, hprefix, hlast]
  · rw [ident, ne_eq, Text.camelCase_eq_empty_iff, words_eq_nil_iff_not_spellable, not_not]

/-- A service with a name in Chinese characters. -/
def sampleTokyo : ServiceInfo := { name := "東京" }

/-- Nothing is left of such a name, with no prefix either. -/
theorem not_package_and_ident :
    (sampleTokyo.package = ".v1" ∧ sampleTokyo.ident = "") ∧
      ¬ ∀ info : ServiceInfo, info.CleanPrefix → "" ∉ segments info.package ∧ info.ident ≠ "" := by
  have hpackage : sampleTokyo.package = ".v1" := by decide +kernel
  have hident : sampleTokyo.ident = "" := by decide +kernel
  refine ⟨⟨hpackage, hident⟩, fun h => ?_⟩
  obtain ⟨hsegments, -⟩ := h sampleTokyo (.inl (by decide +kernel))
  rw [hpackage] at hsegments
  exact hsegments (by decide +kernel)

end ServiceInfo

end ServiceSchema
