/-
What the command for schemas leaves behind. As long as the schema is not complete nothing has been
touched (`run_of_loadFails`); a dry run touches nothing at all (`run_dryRun_files`). In earnest no
file changes but that of the schema, which holds what a dry run prints unless writing it fails
(`run_inEarnest`), and that is what the compiler finds.
-/
import ServiceSchema.CommandLine.Run
import ServiceSchema.Proofs.CommandLine.Arguments
import ServiceSchema.Proofs.Output

namespace ServiceSchema.CommandLine

open FileSystem (KeepsFiles)

variable {w : World} {manifest : String} {config out : Option String} {layout : Option Layout}
  {dryRun compile : Bool} {error : RunError} {p : Prepared} {args : List String}

/-! ## Before the schema is complete -/

/-- What goes wrong before there is a service: settings cannot be loaded, a manifest cannot be
loaded, or what it holds cannot be resolved. -/
inductive LoadFails (w : World) (manifest : String) (config : Option String) : RunError → Prop
  | config (error : ConfigError) (h : Config.ofFile w.files w.environment config = .error error) :
    LoadFails w manifest config (.config error)
  | manifest (settings : Config) (error : ManifestError)
    (hsettings : Config.ofFile w.files w.environment config = .ok settings)
    (h : Manifest.load w.files manifest = .error error) : LoadFails w manifest config (.manifest error)
  | resolve (settings : Config) (loaded : Manifest) (error : ManifestError)
    (hsettings : Config.ofFile w.files w.environment config = .ok settings)
    (hloaded : Manifest.load w.files manifest = .ok loaded)
    (h : loaded.toService settings.knownTypes = .error error) :
    LoadFails w manifest config (.resolve manifest error)

theorem prepare_of_loadFails (h : LoadFails w manifest config error) :
    prepare w manifest config out layout = .error error := by
  cases h with
  | config error h => simp [prepare, loadConfig, h, Except.mapError, bind, Except.bind]
  | manifest settings error hsettings h =>
    simp [prepare, loadConfig, loadService, hsettings, h, Except.mapError, bind, Except.bind]
  | resolve settings loaded error hsettings hloaded h =>
    have hconfig : loadConfig w config = .ok settings := by
      rw [loadConfig, hsettings]
      rfl
    have hservice : loadService w manifest settings.knownTypes = .error (.resolve manifest error) := by
      simp [loadService, hloaded, h, Except.mapError, bind, Except.bind]
    rw [prepare, hconfig]
    -- The options do not touch the table of well-known types.
    change loadService w manifest settings.knownTypes >>= _ = _
    rw [hservice]
    rfl

/-- A run that has no service to go by has done nothing. -/
theorem run_of_loadFails (h : LoadFails w manifest config error) :
    run w (.generate manifest config out layout dryRun compile) =
      { stdout := "", failure := some error, files := w.files } := by
  simp only [run, generate, prepare_of_loadFails h]

/-! ## Dry runs -/

theorem run_dryRun_files :
    (run w (.generate manifest config out layout true compile)).files = w.files := by
  simp only [run, generate]
  cases prepare w manifest config out layout <;> rfl

theorem run_dryRun_of_prepare (h : prepare w manifest config out layout = .ok p) :
    run w (.generate manifest config out layout true compile) =
      { stdout := p.schema, files := w.files } := by
  simp only [run, generate, h]
  rfl

/-! ## Runs in earnest -/

/-- The path of the file for the schema. -/
def Prepared.path (p : Prepared) : String :=
  Path.join p.config.outputDir (schemaFileName p.service.info.name)

/-- The schema is in its file, and no other file has changed. -/
structure Written (p : Prepared) (before after : FileSystem) : Prop where
  content : after.read p.path = .ok p.schema.toUTF8
  keepsFiles : KeepsFiles (after.place? p.path) before after

/-- How a run in earnest comes out. When there is no schema nothing has been touched. When writing the
schema fails nothing is said of its file, but no other one has changed. Otherwise the schema is in its
file, and that is where the compiler starts, if it is to run. -/
inductive Earnest (w : World) (manifest : String) (config out : Option String) (layout : Option Layout)
    (compile : Bool) : Outcome → Prop
  | unprepared (error : RunError) (h : prepare w manifest config out layout = .error error) :
    Earnest w manifest config out layout compile { failure := some error, files := w.files }
  | unwritten (p : Prepared) (files : FileSystem) (error : GenerationError)
    (hprepare : prepare w manifest config out layout = .ok p)
    (hkeeps : KeepsFiles (files.place? p.path) w.files files) :
    Earnest w manifest config out layout compile { failure := some (.generation error), files }
  | written (p : Prepared) (files : FileSystem)
    (hprepare : prepare w manifest config out layout = .ok p) (h : Written p w.files files) :
    Earnest w manifest config out layout compile
      (if compile then compileWritten w p p.path files else { stdout := p.path ++ "\n", files })

theorem run_inEarnest : Earnest w manifest config out layout compile
    (run w (.generate manifest config out layout false compile)) := by
  simp only [run, generate]
  cases hprepare : prepare w manifest config out layout with
  | error error => exact .unprepared error hprepare
  | ok p =>
    rcases writeSchema_cases w.files p.config.outputDir p.service.info.name p.schema with
      ⟨error, files, hwrite, hkeeps⟩ | ⟨files, hwrite, hcontent, hkeeps⟩
    · simp only [Bool.false_eq_true, if_false, hwrite]
      exact .unwritten p files error hprepare hkeeps
    · simp only [Bool.false_eq_true, if_false, hwrite]
      exact .written p files hprepare ⟨hcontent, hkeeps⟩

/-- **What a run leaves behind.** When settings or the manifest cannot be loaded or resolved, there
is no output and nothing is touched. A dry run touches nothing, and prints what the same arguments
without the one for it leave in the file for the schema, if they succeed. Any other run changes no
file but that one until the compiler is run (`Earnest`). -/
theorem generate_effects (w : World)
    (h : parse args = .ok (.generate manifest config out layout dryRun compile)) :
    (∀ error, LoadFails w manifest config error →
      run w (.generate manifest config out layout dryRun compile) =
        { stdout := "", failure := some error, files := w.files }) ∧
    (dryRun = true →
      (run w (.generate manifest config out layout dryRun compile)).files = w.files ∧
      ∃ earnest, parse (args.erase dryRunArgument) = .ok earnest ∧
        ((run w earnest).failure = none →
          ∃ p, prepare w manifest config out layout = .ok p ∧
            (run w earnest).stdout = p.path ++ "\n" ∧
            (run w earnest).files.read p.path =
              .ok (run w (.generate manifest config out layout dryRun compile)).stdout.toUTF8)) ∧
    (dryRun = false → Earnest w manifest config out layout compile
      (run w (.generate manifest config out layout dryRun compile))) := by
  refine ⟨fun error hfails => run_of_loadFails hfails, ?_, ?_⟩
  · rintro rfl
    refine ⟨run_dryRun_files, _, (parse_erase_dryRun h).2, fun hsuccess => ?_⟩
    have hearnest : Earnest w manifest config out layout false
        (run w (.generate manifest config out layout false false)) := run_inEarnest
    generalize run w (.generate manifest config out layout false false) = outcome at hsuccess hearnest
    cases hearnest with
    | unprepared => cases hsuccess
    | unwritten => cases hsuccess
    | written p files hprepare hwritten =>
      rw [run_dryRun_of_prepare hprepare]
      exact ⟨p, hprepare, rfl, hwritten.content⟩
  · rintro rfl
    exact run_inEarnest

/-- A service without methods, described in the working directory. -/
def sampleWorld : World where
  files := ⟨[(["shop.json"], .file "\x7b\"service\":\x7b\"name\":\"Shop\"\x7d\x7d".toUTF8)], []⟩
  environment := fun _ => none
  host := fun _ _ _ _ => none

def sampleArguments : List String := ["generate", "-m", "shop.json", "--dry-run", "-o", "out"]

theorem generate_effects_sampleWorld :
    parse sampleArguments = .ok (.generate "shop.json" none (some "out") none true false) ∧
      ∃ p, prepare sampleWorld "shop.json" none (some "out") none = .ok p ∧
        (run sampleWorld (.generate "shop.json" none (some "out") none false false)).files.read p.path =
          .ok (run sampleWorld
            (.generate "shop.json" none (some "out") none true false)).stdout.toUTF8 := by
  have hparse : parse sampleArguments =
      .ok (.generate "shop.json" none (some "out") none true false) := by decide
  obtain ⟨-, hdry, -⟩ := generate_effects sampleWorld hparse
  obtain ⟨-, earnest, hearnest, hwritten⟩ := hdry rfl
  have hcommand : earnest = .generate "shop.json" none (some "out") none false false :=
    Except.ok.inj (hearnest.symm.trans (by decide))
  subst hcommand
  obtain ⟨p, hprepare, -, hread⟩ := hwritten (by decide +kernel)
  exact ⟨hparse, p, hprepare, hread⟩

end ServiceSchema.CommandLine
