/-
Where schemas are put. All that write a schema report one path, `schemaPath`. When the service's name
has no slash in it, that path stands in the output directory, and the file is in the place to which the
directory leads (`place?_join`). With a slash the name is a path of its own, which may lead out of the
directory (`schemaPath_outward`).
-/
import ServiceSchema.App
import ServiceSchema.Proofs.CommandLine.Generate
import ServiceSchema.Proofs.Output

namespace ServiceSchema

namespace FileSystem

variable {fs : FileSystem} {dir name : String} {content : ByteArray}

/-- The directory to which a path leads. -/
def leadsTo (fs : FileSystem) (path : String) : Except FileError Location :=
  fs.walk (if Path.anchor path = "/" then [] else fs.workingDir) (Path.parts path)

theorem locate_join {found : Location × String × Bool} (hslash : '/' ∉ name.toList)
    (hname : Path.isIdle name = false) (h : fs.locate (Path.join dir name) = .ok found) :
    fs.leadsTo dir = .ok found.1 ∧ found.2.1 = name := by
  have hanchor : Path.anchor name = "" :=
    Path.anchor_of_not_idle (Path.parts_of_not_mem hslash) hname
  have hempty : name ≠ "" := fun hempty => by simp [hempty, Path.isIdle] at hname
  obtain ⟨ps, hjoin, hdir⟩ := Path.parts_join dir hname hslash
  have hdrop : (name :: ps.reverse).dropWhile (· = "") = name :: ps.reverse :=
    List.dropWhile_cons_of_neg (by simpa using hempty)
  simp only [locate, check_eq_ok, Path.anchor_join dir hanchor, hjoin, List.reverse_append,
    List.reverse_singleton, List.singleton_append, hdrop] at h
  obtain ⟨place, hwalk, hfound⟩ := bind_eq_ok.1 h.2.2
  obtain rfl := pure_eq_ok.1 hfound
  rw [List.reverse_reverse] at hwalk
  refine ⟨?_, rfl⟩
  rcases hdir with hdir | hdir
  · rw [leadsTo, hdir, hwalk]
  · rw [leadsTo, hdir, walk, List.foldlM_append]
    exact bind_eq_ok.2 ⟨place, hwalk, rfl⟩

/-- A file that has been joined to a directory by its name is in the place to which the directory
leads. -/
theorem place?_join (hslash : '/' ∉ name.toList) (hname : Path.isIdle name = false)
    (hread : fs.read (Path.join dir name) = .ok content) :
    ∃ place, fs.leadsTo dir = .ok place ∧ fs.place? (Path.join dir name) = some (place ++ [name]) := by
  simp only [read, find, bind_eq_ok] at hread
  obtain ⟨_, ⟨⟨place, last, closed⟩, hlocate, -⟩, -⟩ := hread
  obtain ⟨hdir, rfl⟩ := locate_join hslash hname hlocate
  exact ⟨place, hdir, by rw [place?, hlocate]⟩

end FileSystem

/-! ## All ways to write a schema -/

theorem write_cases (a : App) (config : Config) (fs : FileSystem) :
    (∃ error after, a.write config fs = (.error error, after)) ∨
      ∃ after, a.write config fs = (.ok (schemaPath config.outputDir a.info.name), after) := by
  rw [App.write]
  cases a.generate config with
  | error error => exact .inl ⟨error, fs, rfl⟩
  | ok schema =>
    rcases writeSchema_cases fs config.outputDir a.info.name schema.text with
      ⟨error, after, h, -⟩ | ⟨after, h, -⟩
    · exact .inl ⟨error, after, h⟩
    · exact .inr ⟨after, h⟩

namespace CommandLine

theorem compileWritten_stdout (w : World) (p : Prepared) (path : String) (files : FileSystem) :
    ∃ more, (compileWritten w p path files).stdout = path ++ "\n" ++ more := by
  rw [compileWritten]
  split
  · exact ⟨"", String.append_empty.symm⟩
  · exact ⟨_, rfl⟩

theorem run_stdout (w : World) (manifest : String) (config out : Option String)
    (layout : Option Layout) (compile : Bool) :
    (run w (.generate manifest config out layout false compile)).stdout = "" ∨
      ∃ p more, prepare w manifest config out layout = .ok p ∧
        (run w (.generate manifest config out layout false compile)).stdout =
          schemaPath p.config.outputDir p.service.info.name ++ "\n" ++ more := by
  have hearnest : Earnest w manifest config out layout compile
      (run w (.generate manifest config out layout false compile)) := run_inEarnest
  generalize run w (.generate manifest config out layout false compile) = outcome at hearnest
  cases hearnest with
  | unprepared => exact .inl rfl
  | unwritten => exact .inl rfl
  | written p files hprepare =>
    refine .inr ?_
    cases compile with
    | false => exact ⟨p, "", hprepare, String.append_empty.symm⟩
    | true =>
      obtain ⟨more, hmore⟩ := compileWritten_stdout w p p.path files
      exact ⟨p, more, hprepare, hmore⟩

end CommandLine

/-- **Where schemas are put.** The path of a schema stands directly in the output directory, under the
name of the file, exactly when there is no slash in the service's name; then the file is in the place
to which the directory leads. Writing a schema, writing that of an application, and the command answer
with that path, unless they fail. -/
theorem schema_placement (dir service : String) :
    (Path.ChildOf dir (schemaFileName service) (schemaPath dir service) ↔ '/' ∉ service.toList) ∧
    (∀ fs text, (∃ error after, writeSchema fs dir service text = (.error error, after)) ∨
      ∃ after, writeSchema fs dir service text = (.ok (schemaPath dir service), after) ∧
        after.read (schemaPath dir service) = .ok text.toUTF8 ∧
        ('/' ∈ service.toList ∨ ∃ place, after.leadsTo dir = .ok place ∧
          after.place? (schemaPath dir service) = some (place ++ [schemaFileName service]))) ∧
    (∀ (a : App) (config : Config) fs,
      (∃ error after, a.write config fs = (.error error, after)) ∨
      ∃ after, a.write config fs = (.ok (schemaPath config.outputDir a.info.name), after)) ∧
    ∀ w manifest config out layout compile,
      (CommandLine.run w (.generate manifest config out layout false compile)).stdout = "" ∨
      ∃ p more, CommandLine.prepare w manifest config out layout = .ok p ∧
        (CommandLine.run w (.generate manifest config out layout false compile)).stdout =
          schemaPath p.config.outputDir p.service.info.name ++ "\n" ++ more := by
  refine ⟨childOf_schemaPath_iff dir service, fun fs text => ?_, write_cases, CommandLine.run_stdout⟩
  rcases writeSchema_cases fs dir service text with ⟨error, after, h, -⟩ | ⟨after, h, hread, -⟩
  · exact .inl ⟨error, after, h⟩
  · refine .inr ⟨after, h, hread, or_iff_not_imp_left.2 fun hslash => ?_⟩
    exact FileSystem.place?_join (mt slash_mem_schemaFileName.1 hslash)
      (isIdle_schemaFileName service) hread

/-- A manifest whose service is named as a path out of the output directory. -/
def outwardWorld : CommandLine.World where
  files := ⟨[(["shop.json"],
    .file "\x7b\"service\":\x7b\"name\":\"../shop\"\x7d\x7d".toUTF8)], []⟩
  environment := fun _ => none
  host := fun _ _ _ _ => none

theorem schemaPath_outward :
    (CommandLine.run outwardWorld
      (.generate "shop.json" none (some "proto") none false false)).stdout = "proto/../shop.proto\n" ∧
    (CommandLine.run outwardWorld
      (.generate "shop.json" none (some "proto") none false false)).files.place?
        "proto/../shop.proto" = some ["shop.proto"] ∧
    ¬ ∀ dir service, Path.ChildOf dir (schemaFileName service) (schemaPath dir service) := by
  refine ⟨by decide +kernel, by decide +kernel, fun hall => ?_⟩
  exact (childOf_schemaPath_iff "proto" "../shop").1 (hall _ _) (by decide)

end ServiceSchema
