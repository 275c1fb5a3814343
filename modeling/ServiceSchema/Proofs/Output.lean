/-
The file for a schema: its name, its path, and what writing it leaves. The name has a slash in it
exactly when the service's name has one (`slash_mem_schemaFileName`), since lower-casing neither makes
slashes nor takes them away; and exactly then the path does not stand in the output directory
(`childOf_schemaPath_iff`).
-/
import ServiceSchema.Output
import ServiceSchema.Proofs.Files.FileSystem
import ServiceSchema.Proofs.Files.Path

namespace ServiceSchema

open FileSystem (KeepsFiles)

namespace Text

/-! ## Slashes in lower case -/

theorem target_of_mem_lowerRuns : ∀ run ∈ lowerRuns, '/'.toNat < run.target := by
  decide +kernel

theorem ofNat_ne_slash {code : Nat} (h : '/'.toNat < code) : Char.ofNat code ≠ '/' := by
  intro heq
  by_cases hvalid : code.isValidChar
  · rw [Char.ofNat, dif_pos hvalid] at heq
    have hcode : code = '/'.toNat := congrArg Char.toNat heq
    omega
  · rw [Char.ofNat, dif_neg hvalid] at heq
    cases congrArg Char.toNat heq

theorem toLower_eq_slash {c : Char} : c.toLower = '/' ↔ c = '/' := by
  unfold Char.toLower
  split
  · rename_i hupper
    simp only [ge_iff_le, UInt32.le_iff_toNat_le] at hupper
    constructor
    · intro h
      have hcode := congrArg (·.val.toNat) h
      simp at hcode hupper
      omega
    · rintro rfl
      simp at hupper
  · rfl

theorem slash_mem_lowerChar {c : Char} : '/' ∈ lowerChar c ↔ c = '/' := by
  rw [lowerChar]
  split
  · rw [List.mem_singleton, eq_comm, toLower_eq_slash]
  · rename_i hbeyond
    have hc : c ≠ '/' := fun h => hbeyond (h ▸ by decide)
    refine iff_of_false ?_ hc
    split
    · decide
    split
    · rename_i code hfound
      obtain ⟨run, hrun, hlower⟩ := List.exists_of_findSome?_eq_some hfound
      rw [CaseRun.lower?] at hlower
      split at hlower
      · have htarget := target_of_mem_lowerRuns run hrun
        obtain rfl := Option.some.inj hlower
        exact fun hmem => ofNat_ne_slash (Nat.lt_add_right _ htarget) (List.mem_singleton.1 hmem).symm
      · cases hlower
    · exact fun hmem => hc (List.mem_singleton.1 hmem).symm

theorem slash_mem_lowerFrom (before cs : List Char) : '/' ∈ lowerFrom before cs ↔ '/' ∈ cs := by
  induction cs generalizing before with
  | nil => rfl
  | cons c rest ih =>
    rw [lowerFrom, List.mem_append, ih, List.mem_cons, eq_comm (a := '/')]
    refine or_congr_left ?_
    split
    · rename_i hsigma
      refine iff_of_false ?_ fun h => ?_
      · split <;> decide
      · subst h
        exact absurd hsigma (by decide)
    · exact slash_mem_lowerChar

end Text

/-! ## The name of the file -/

theorem slash_mem_schemaFileName {service : String} :
    '/' ∈ (schemaFileName service).toList ↔ '/' ∈ service.toList := by
  have hunderscore (c : Char) : (if c = ' ' then '_' else c) = '/' ↔ c = '/' := by
    split
    · subst_vars
      decide
    · rfl
  rw [schemaFileName, String.toList_append, String.toList_ofList, List.mem_append, List.mem_map,
    Text.lower, String.toList_ofList]
  simp only [hunderscore, exists_eq_right, Text.slash_mem_lowerFrom]
  exact or_iff_left (by decide)

theorem getLast?_schemaFileName (service : String) :
    (schemaFileName service).toList.getLast? = some 'o' := by
  rw [schemaFileName, String.toList_append, List.getLast?_append_of_ne_nil _ (by decide)]
  rfl

theorem schemaFileName_ne (service : String) {s : String} (h : s.toList.getLast? ≠ some 'o') :
    schemaFileName service ≠ s := by
  rintro rfl
  exact h (getLast?_schemaFileName service)

theorem isIdle_schemaFileName (service : String) : Path.isIdle (schemaFileName service) = false := by
  have hempty : schemaFileName service ≠ "" := schemaFileName_ne service (by decide)
  have hpoint : schemaFileName service ≠ "." := schemaFileName_ne service (by decide)
  simp [Path.isIdle, hempty, hpoint]

/-! ## The path of the file -/

/-- The path at which a schema is written. -/
def schemaPath (dir service : String) : String := Path.join dir (schemaFileName service)

theorem childOf_schemaPath_iff (dir service : String) :
    Path.ChildOf dir (schemaFileName service) (schemaPath dir service) ↔ '/' ∉ service.toList := by
  have hup : schemaFileName service ≠ ".." := schemaFileName_ne service (by decide)
  rw [schemaPath, Path.childOf_join_iff dir (isIdle_schemaFileName service) hup,
    slash_mem_schemaFileName]

/-! ## Writing -/

/-- No file changes but that of the schema, which is in it if nothing has failed. -/
theorem writeSchema_cases (fs : FileSystem) (dir service text : String) :
    (∃ error after, writeSchema fs dir service text = (.error error, after) ∧
      KeepsFiles (after.place? (schemaPath dir service)) fs after) ∨
    ∃ after, writeSchema fs dir service text = (.ok (schemaPath dir service), after) ∧
      after.read (schemaPath dir service) = .ok text.toUTF8 ∧
      KeepsFiles (after.place? (schemaPath dir service)) fs after := by
  have hdirs := fs.keepsFiles_makeDirs dir
  unfold writeSchema
  split
  · rename_i after hmade
    have hdirs : KeepsFiles none fs after := by simpa [hmade] using hdirs
    exact .inl ⟨_, after, rfl, hdirs.apart⟩
  · rename_i made hmade
    have hdirs : KeepsFiles none fs made := by simpa [hmade] using hdirs
    simp only
    split
    · rename_i after hwritten
      exact .inr ⟨after, rfl, FileSystem.read_write hwritten,
        hdirs.apart.trans (FileSystem.keepsFiles_write hwritten)⟩
    · exact .inl ⟨_, made, rfl, hdirs.apart⟩

end ServiceSchema
