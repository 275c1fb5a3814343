/-
What making directories and writing a file leave as it was. Directories come in where nothing was,
and no file changes (`keepsFiles_makeDirs`), also when only some of them could be made. A file that
has been written holds what was written, is found under its path again, and is the only thing that
has changed (`write_eq_ok`, `read_write`).

A path is found again because following it goes through directories alone: neither does a directory
go away, nor does a file take the place of one, so it goes where it went before (`locate_mono`).
-/
import ServiceSchema.Files.FileSystem
import ServiceSchema.Proofs.Except

namespace ServiceSchema

namespace FileSystem

variable {fs fs' fs'' : FileSystem} {place : Location} {path : String}

/-! ## Entries -/

theorem entry?_put_self (h : place ≠ []) (entry : Entry) :
    entry? (fs.put place entry) place = some entry := by
  simp [put, entry?, h]

theorem entry?_put_other {other : Location} (h : other ≠ place) (entry : Entry) :
    entry? (fs.put place entry) other = fs.entry? other := by
  have hlookup : ∀ entries : List (Location × Entry),
      (entries.filter (·.1 ≠ place)).lookup other = entries.lookup other := by
    intro entries
    induction entries with
    | nil => rfl
    | cons p rest ih =>
      obtain ⟨p, e⟩ := p
      by_cases hp : p = place
      · subst hp
        rw [List.filter_cons_of_neg (by simp), ih, List.lookup_cons, beq_eq_false_iff_ne.2 h]
      · rw [List.filter_cons_of_pos (by simpa using hp), List.lookup_cons, List.lookup_cons, ih]
  by_cases hroot : other = []
  · simp [ entry?, hroot]
  · simp only [put, entry?, hroot, if_false, List.lookup_cons, beq_eq_false_iff_ne.2 h, hlookup]

/-! ## Keeping files -/

/-- What has become of a file system, one place apart: directories have come in where nothing was,
and all else stands as it stood. -/
structure KeepsFiles (target : Option Location) (before after : FileSystem) : Prop where
  workingDir : after.workingDir = before.workingDir
  entry : ∀ place, target ≠ some place → after.entry? place = before.entry? place ∨
    before.entry? place = none ∧ after.entry? place = some .directory

namespace KeepsFiles

variable {target : Option Location}

theorem refl (fs : FileSystem) : KeepsFiles target fs fs :=
  ⟨rfl, fun _ _ => .inl rfl⟩

theorem trans (h : KeepsFiles target fs fs') (h' : KeepsFiles target fs' fs'') :
    KeepsFiles target fs fs'' where
  workingDir := h'.workingDir.trans h.workingDir
  entry := by
    intro place hplace
    rcases h'.entry place hplace with heq | ⟨hnone, hdir⟩
    · rw [heq]
      exact h.entry place hplace
    · rcases h.entry place hplace with heq | ⟨_, hdir'⟩
      · exact .inr ⟨heq ▸ hnone, hdir⟩
      · exact absurd (hdir'.symm.trans hnone) nofun

theorem apart (h : KeepsFiles none fs fs') : KeepsFiles target fs fs' :=
  ⟨h.workingDir, fun place _ => h.entry place nofun⟩

theorem put_directory (h : fs.entry? place = none) : KeepsFiles none fs (fs.put place .directory) where
  workingDir := rfl
  entry := by
    intro other _
    by_cases hother : other = place
    · subst hother
      have hroot : other ≠ [] := fun hroot => by simp [ entry?, hroot] at h
      exact .inr ⟨h, entry?_put_self hroot _⟩
    · exact .inl (entry?_put_other hother _)

theorem put_target (entry : Entry) : KeepsFiles (some place) fs (fs.put place entry) where
  workingDir := rfl
  entry := fun _ hother => .inl (entry?_put_other (fun heq => hother (congrArg some heq.symm)) _)

end KeepsFiles

/-! ## Making directories -/

theorem makeDir_eq_ok : fs.makeDir path = .ok fs' →
    ∃ place, fs.entry? place = none ∧ fs.put place .directory = fs' := by
  intro h
  simp only [makeDir, bind_eq_ok, check_eq_ok] at h
  obtain ⟨⟨dir, name, closed⟩, -, -, -, h⟩ := h
  split at h
  · cases h
  · rename_i hnone
    exact ⟨dir ++ [name], hnone, pure_eq_ok.1 h⟩

theorem keepsFiles_makeDir (h : fs.makeDir path = .ok fs') : KeepsFiles none fs fs' := by
  obtain ⟨place, hnone, rfl⟩ := makeDir_eq_ok h
  exact .put_directory hnone

theorem keepsFiles_ensureDir (h : fs.ensureDir path = .ok fs') : KeepsFiles none fs fs' := by
  rw [ensureDir] at h
  split at h
  · rename_i made hmade
    cases h
    exact keepsFiles_makeDir hmade
  · split at h
    · cases h
      exact .refl fs
    · cases h

theorem keepsFiles_makeDirsWithin (bound : Nat) (fs : FileSystem) (path : String) :
    KeepsFiles none fs (makeDirsWithin bound fs path).2 := by
  induction bound generalizing fs path with
  | zero => exact .refl fs
  | succ bound ih =>
    rw [makeDirsWithin]
    split
    · exact .refl fs
    split
    · rename_i hmade
      exact keepsFiles_makeDir hmade
    · split
      · exact .refl fs
      · rename_i above _
        have habove := ih fs above
        split
        · rename_i hmade
          exact hmade ▸ habove
        · rename_i made hmade
          have hmade : KeepsFiles none fs made := by simpa [hmade] using habove
          split
          · rename_i hensured
            exact hmade.trans (keepsFiles_ensureDir hensured)
          · exact hmade
    · exact .refl fs

theorem keepsFiles_makeDirs (fs : FileSystem) (path : String) :
    KeepsFiles none fs (fs.makeDirs path).2 :=
  keepsFiles_makeDirsWithin _ fs path

/-! ## Following paths -/

/-- The place to which a path leads that ends in a name. -/
def place? (fs : FileSystem) (path : String) : Option Location :=
  match fs.locate path with
  | .ok (dir, name, _) => some (dir ++ [name])
  | .error _ => none

/-- All directories are there, and paths start where they started. -/
structure KeepsDirs (before after : FileSystem) : Prop where
  workingDir : after.workingDir = before.workingDir
  entry : ∀ place, before.entry? place = some .directory → after.entry? place = some .directory

theorem KeepsFiles.keepsDirs {target : Option Location} (h : KeepsFiles target fs fs')
    (htarget : ∀ place, target = some place → fs.entry? place ≠ some .directory) :
    KeepsDirs fs fs' where
  workingDir := h.workingDir
  entry := by
    intro place hdir
    have hplace : target ≠ some place := fun heq => htarget place heq hdir
    rcases h.entry place hplace with heq | ⟨hnone, _⟩
    · rw [heq, hdir]
    · exact absurd (hdir.symm.trans hnone) nofun

theorem enter_mono (h : KeepsDirs fs fs') {dir dir' : Location} {name : String}
    (henter : fs.enter dir name = .ok dir') : fs'.enter dir name = .ok dir' := by
  unfold enter at henter ⊢
  split at henter
  · rename_i hidle
    rw [if_pos hidle, henter]
  · rename_i hidle
    rw [if_neg hidle]
    split at henter
    · rename_i hup
      rw [if_pos hup, henter]
    · rename_i hup
      rw [if_neg hup]
      split at henter
      · cases henter
      · rename_i hlong
        rw [if_neg hlong]
        split at henter
        · rename_i hentry
          rw [h.entry _ hentry]
          exact henter
        · cases henter
        · cases henter

theorem walk_mono (h : KeepsDirs fs fs') {start dir : Location} {parts : List String}
    (hwalk : fs.walk start parts = .ok dir) : fs'.walk start parts = .ok dir := by
  induction parts generalizing start with
  | nil => exact hwalk
  | cons name rest ih =>
    rw [walk, List.foldlM_cons, bind_eq_ok] at hwalk
    obtain ⟨next, henter, hrest⟩ := hwalk
    rw [walk, List.foldlM_cons, enter_mono h henter]
    exact ih hrest

/-- A path leads where it led before. -/
theorem locate_mono (h : KeepsDirs fs fs') {found : Location × String × Bool}
    (hlocate : fs.locate path = .ok found) : fs'.locate path = .ok found := by
  simp only [locate, check_eq_ok, h.workingDir] at hlocate ⊢
  refine ⟨hlocate.1, hlocate.2.1, ?_⟩
  have hwalked := hlocate.2.2
  split at hwalked
  · exact hwalked
  · obtain ⟨dir, hwalk, hat⟩ := bind_eq_ok.1 hwalked
    exact bind_eq_ok.2 ⟨dir, walk_mono h hwalk, hat⟩

theorem place?_mono (h : KeepsDirs fs fs') (hplace : fs.place? path = some place) :
    fs'.place? path = some place := by
  unfold place? at hplace ⊢
  split at hplace
  · rename_i hlocate
    rw [locate_mono h hlocate]
    exact hplace
  · cases hplace

/-! ## Writing -/

/-- What writing asks of a path, and what it leaves: the path leads to a place that is no directory,
and the file is put there. -/
theorem write_eq_ok {content : ByteArray} (h : fs.write path content = .ok fs') :
    ∃ dir name, fs.locate path = .ok (dir, name, false) ∧ Path.isIdle name = false ∧ name ≠ ".." ∧
      name.utf8ByteSize < nameLimit ∧ fs.entry? (dir ++ [name]) ≠ some .directory ∧
      fs' = fs.put (dir ++ [name]) (.file content) := by
  simp only [write, bind_eq_ok, check_eq_ok] at h
  obtain ⟨⟨dir, name, closed⟩, hlocate, hname, hshort, h⟩ := h
  simp only [Bool.or_eq_true, not_or, Bool.not_eq_true, decide_eq_true_eq] at hname
  obtain ⟨⟨hclosed, hidle⟩, hup⟩ := hname
  cases hclosed
  refine ⟨dir, name, hlocate, hidle, hup, Nat.lt_of_not_le hshort, ?_⟩
  split at h
  · cases h
  · rename_i hnotDir
    exact ⟨hnotDir, (pure_eq_ok.1 h).symm⟩

theorem keepsDirs_write {content : ByteArray} (h : fs.write path content = .ok fs') :
    KeepsDirs fs fs' := by
  obtain ⟨dir, name, -, -, -, -, hnotDir, rfl⟩ := write_eq_ok h
  exact (KeepsFiles.put_target _).keepsDirs fun place heq => Option.some.inj heq ▸ hnotDir

/-- Writing changes what its path leads to, and nothing else. -/
theorem keepsFiles_write {content : ByteArray} (h : fs.write path content = .ok fs') :
    KeepsFiles (fs'.place? path) fs fs' := by
  have hdirs := keepsDirs_write h
  obtain ⟨dir, name, hlocate, -, -, -, -, rfl⟩ := write_eq_ok h
  have hplace : fs.place? path = some (dir ++ [name]) := by rw [place?, hlocate]
  rw [place?_mono hdirs hplace]
  exact .put_target _

/-- What has been written is read. -/
theorem read_write {content : ByteArray} (h : fs.write path content = .ok fs') :
    fs'.read path = .ok content := by
  have hdirs := keepsDirs_write h
  obtain ⟨dir, name, hlocate, hidle, hup, hshort, -, rfl⟩ := write_eq_ok h
  have hentry : entry? (fs.put (dir ++ [name]) (.file content)) (dir ++ [name]) =
      some (.file content) := entry?_put_self (by simp) _
  have hfind : (fs.put (dir ++ [name]) (.file content)).find path = .ok (.file content) := by
    simp only [find, bind_eq_ok]
    refine ⟨_, locate_mono hdirs hlocate, ?_⟩
    simp [hidle, hup, Nat.not_le.2 hshort, hentry]
    rfl
  simp [read, hfind]
  rfl

end FileSystem

end ServiceSchema
