/-
Leaving out the option for a dry run. A command line that asks for a dry run has the option in one
argument of its own, and without that argument it is the same command in earnest
(`parse_erase_dryRun`).

An option waits for its value until the next option comes, so with the argument another option is
settled earlier than without it. What is read does not depend on that (`readOptions_of_settled`).
-/
import Mathlib.Data.List.Basic
import ServiceSchema.CommandLine.Arguments
import ServiceSchema.Proofs.Except

namespace ServiceSchema.CommandLine

variable {known : List Switch} {g g' g₁ r : Given} {pending pending' : Pending} {o : Switch}
  {value : Option String} {cs : List Char} {arg : String} {args rest : List String}

/-- The argument that asks for a dry run. -/
def dryRunArgument : String := "--dry-run"

/-- The same options, without the one for a dry run. -/
def Given.inEarnest (g : Given) : Given := { g with dryRun := false }

theorem Given.inEarnest_of_false (h : g.dryRun = false) : g.inEarnest = g := by
  simp [Given.inEarnest, ← h]

/-- The option that was named last is not the one for a dry run. -/
def NotDryRun (pending : Pending) : Prop := ∀ o value, pending = some (o, value) → o ≠ .dryRun

theorem notDryRun_none : NotDryRun none := nofun

/-! ## Options other than the one for a dry run -/

theorem settle_inEarnest (ho : o ≠ .dryRun) (h : g.settle o value = .ok r) :
    g.inEarnest.settle o value = .ok r.inEarnest ∧ r.dryRun = g.dryRun := by
  cases o with
  | dryRun => exact absurd rfl ho
  | help => cases value <;> cases h
  | compile =>
    simp only [Given.settle, bind_eq_ok, pure_eq_ok] at h
    obtain ⟨compile, hflag, rfl⟩ := h
    simp [Given.settle, Given.inEarnest, hflag, bind, Except.bind, pure, Except.pure]
  | manifest | config | out | layout =>
    cases value with
    | none => cases h
    | some v =>
      simp only [Given.settle, bind_eq_ok, pure_eq_ok] at h
      obtain ⟨new, hnew, rfl⟩ := h
      simp [Given.settle, Given.inEarnest, hnew, bind, Except.bind, pure, Except.pure]

theorem settlePending_inEarnest (hp : NotDryRun pending) (h : g.settlePending pending = .ok r) :
    g.inEarnest.settlePending pending = .ok r.inEarnest ∧ r.dryRun = g.dryRun := by
  cases pending with
  | none =>
    cases h
    exact ⟨rfl, rfl⟩
  | some p => exact settle_inEarnest (hp _ _ rfl) h

theorem settlePending_dryRun (hp : NotDryRun pending) (h : g.settlePending pending = .ok r) :
    r.dryRun = g.dryRun :=
  (settlePending_inEarnest hp h).2

/-- A step in reading arguments that has nothing to do with the dry run. -/
structure Passes (step : Given → Except UsageError (Given × Pending)) (g g' : Given)
    (pending' : Pending) : Prop where
  inEarnest : step g.inEarnest = .ok (g'.inEarnest, pending')
  dryRun : g'.dryRun = g.dryRun
  notDryRun : NotDryRun pending'

theorem takeOption_passes (hp : NotDryRun pending) (ho : o ≠ .dryRun)
    (h : takeOption g pending o value = .ok (g', pending')) :
    Passes (takeOption · pending o value) g g' pending' := by
  simp only [takeOption, bind_eq_ok] at h
  obtain ⟨settled, hsettled, h⟩ := h
  obtain ⟨hearnest, hflag⟩ := settlePending_inEarnest hp hsettled
  by_cases hvalue : (o.takesValue && value.isNone) = true
  · rw [if_pos hvalue] at h
    cases h
    refine ⟨?_, hflag, fun named _ heq => ?_⟩
    · simp only [takeOption, bind_eq_ok]
      exact ⟨_, hearnest, if_pos hvalue⟩
    · cases heq
      exact ho
  · rw [if_neg hvalue] at h
    obtain ⟨new, hnew, h⟩ := bind_eq_ok.1 h
    cases h
    obtain ⟨hnewEarnest, hnewFlag⟩ := settle_inEarnest ho hnew
    refine ⟨?_, hnewFlag.trans hflag, notDryRun_none⟩
    simp only [takeOption, bind_eq_ok]
    refine ⟨_, hearnest, ?_⟩
    rw [if_neg hvalue]
    exact bind_eq_ok.2 ⟨_, hnewEarnest, rfl⟩

theorem splitLong_of_none {name : String} (h : splitLong cs = (name, none)) : cs = name.toList := by
  rw [splitLong] at h
  split at h
  · cases h
  · rename_i hrest
    cases h
    rw [String.toList_ofList]
    exact (List.takeWhile_append_dropWhile.symm.trans (by rw [hrest, List.append_nil]))

theorem takeLong_passes (hp : NotDryRun pending) (hcs : cs ≠ "dry-run".toList)
    (h : takeLong known g pending cs = .ok (g', pending')) :
    Passes (takeLong known · pending cs) g g' pending' := by
  rcases hsplit : splitLong cs with ⟨name, value⟩
  simp only [takeLong, hsplit] at h ⊢
  cases hfind : known.find? (·.long = name) with
  | none => simp [hfind] at h
  | some o =>
    simp only [hfind] at h ⊢
    by_cases hunwanted : (!o.takesValue && value.isSome) = true
    · rw [if_pos hunwanted] at h
      cases h
    · simp only [if_neg hunwanted] at h ⊢
      refine takeOption_passes hp ?_ h
      intro ho
      have hname : o.long = name := by simpa using List.find?_some hfind
      subst ho
      cases value with
      | some v => exact hunwanted rfl
      | none => exact hcs ((splitLong_of_none hsplit).trans (congrArg String.toList hname.symm))

theorem takeShort_passes (hp : NotDryRun pending)
    (h : takeShort known g pending cs = .ok (g', pending')) :
    Passes (takeShort known · pending cs) g g' pending' := by
  induction cs generalizing g pending with
  | nil =>
    cases h
    exact ⟨rfl, rfl, hp⟩
  | cons c rest ih =>
    simp only [takeShort] at h ⊢
    cases hfind : known.find? (·.short? = some c) with
    | none => simp [hfind] at h
    | some o =>
      have hshort : o.short? = some c := by simpa using List.find?_some hfind
      have ho : o ≠ .dryRun := by
        rintro rfl
        cases hshort
      simp only [hfind] at h ⊢
      by_cases hvalue : o.takesValue = true
      · simp only [if_pos hvalue] at h ⊢
        exact takeOption_passes hp ho h
      · simp only [if_neg hvalue] at h ⊢
        obtain ⟨⟨between, left⟩, htake, hrest⟩ := bind_eq_ok.1 h
        have hfirst := takeOption_passes hp ho htake
        have hthen := ih hfirst.notDryRun hrest
        exact ⟨bind_eq_ok.2 ⟨_, hfirst.inEarnest, hthen.inEarnest⟩,
          hthen.dryRun.trans hfirst.dryRun, hthen.notDryRun⟩

/-! ## Arguments one by one -/

/-- Reads one argument, other than the two dashes that end the options. -/
def readArgument (known : List Switch) (g : Given) (pending : Pending) (arg : String) :
    Except UsageError (Given × Pending) :=
  match arg.toList with
  | '-' :: '-' :: cs => takeLong known g pending cs
  | '-' :: c :: cs => takeShort known g pending (c :: cs)
  | _ =>
    match pending with
    | some (o, none) => .ok (g, some (o, some arg))
    | _ => .error .unknownArgument

theorem readOptions_dashes (h : arg.toList = ['-', '-']) : readOptions known g pending (arg :: rest) =
    if rest.isEmpty then g.settlePending pending else .error .unknownArgument := by
  rw [readOptions]
  exact h

theorem readOptions_argument (h : arg.toList ≠ ['-', '-']) :
    readOptions known g pending (arg :: rest) =
      readArgument known g pending arg >>= fun next => readOptions known next.1 next.2 rest := by
  rw [readOptions.eq_def]
  unfold readArgument
  simp only
  split
  · contradiction
  · rename_i heq
    simp [heq]
  · rename_i hdash heq
    simp [heq]
  · rename_i hlong hshort
    split
    · exact absurd ‹_› (hlong _)
    · exact absurd ‹_› (hshort _ _)
    · rfl
  · rename_i hnone _ hlong hshort
    split
    · exact absurd ‹_› (hlong _)
    · exact absurd ‹_› (hshort _ _)
    · split
      · exact absurd rfl (hnone _)
      · rfl

theorem readArgument_passes (hp : NotDryRun pending) (harg : arg ≠ dryRunArgument)
    (h : readArgument known g pending arg = .ok (g', pending')) :
    Passes (readArgument known · pending arg) g g' pending' := by
  unfold readArgument at h ⊢
  split at h
  · rename_i cs hchars
    refine takeLong_passes hp (fun hcs => harg (String.toList_inj.1 ?_)) h
    rw [hchars, hcs]
    rfl
  · exact takeShort_passes hp h
  · split at h
    · cases h
      refine ⟨rfl, rfl, fun _ _ heq => ?_⟩
      cases heq
      exact hp _ _ rfl
    · cases h

/-- Naming an option takes the last one as settled, whether it has been settled or not. -/
theorem takeOption_of_settled (hg : g.settlePending pending = .ok g₁) :
    takeOption g pending o value = takeOption g₁ none o value := by
  rw [takeOption, takeOption, hg]
  rfl

/-- An argument that can be read when the last option has been settled is read alike before. -/
theorem readArgument_of_settled (hg : g.settlePending pending = .ok g₁) {next : Given × Pending}
    (h : readArgument known g₁ none arg = .ok next) : readArgument known g pending arg = .ok next := by
  unfold readArgument at h ⊢
  split at h
  · rw [← h]
    simp only [takeLong, takeOption_of_settled hg]
  · rw [← h]
    simp only [takeShort, takeOption_of_settled hg]
  · cases h

theorem long_dryRun (h : o.long = "dry-run") : o = .dryRun := by
  cases o with
  | dryRun => rfl
  | _ => exact absurd h (by decide)

/-- The argument for a dry run settles the option before it, and is settled itself. -/
theorem readArgument_dryRun (h : readArgument known g pending dryRunArgument = .ok (g', pending')) :
    g.settlePending pending = .ok g'.inEarnest ∧ g'.dryRun = true ∧ pending' = none := by
  have hsplit : splitLong "dry-run".toList = ("dry-run", none) := by decide
  change takeLong known g pending "dry-run".toList = _ at h
  simp only [takeLong, hsplit] at h
  cases hfind : known.find? (·.long = "dry-run") with
  | none => simp [hfind] at h
  | some o =>
    have ho : o = .dryRun := long_dryRun (by simpa using List.find?_some hfind)
    subst ho
    simp only [hfind, takeOption] at h
    obtain ⟨settled, hsettled, h⟩ := bind_eq_ok.1 h
    cases hflag : settled.dryRun with
    | true => simp [Switch.takesValue, Given.settle, newFlag, hflag, bind, Except.bind] at h
    | false =>
      simp only [Switch.takesValue, Given.settle, newFlag, hflag] at h
      cases h
      exact ⟨hsettled.trans (congrArg _ (Given.inEarnest_of_false hflag).symm), rfl, rfl⟩

/-! ## Readings -/

/-- What can be read when the last option has been settled is read alike before. -/
theorem readOptions_of_settled (hg : g.settlePending pending = .ok g₁)
    (h : readOptions known g₁ none args = .ok r) : readOptions known g pending args = .ok r := by
  cases args with
  | nil =>
    rw [readOptions, hg]
    exact h
  | cons arg rest =>
    by_cases hdashes : arg.toList = ['-', '-']
    · rw [readOptions_dashes hdashes] at h ⊢
      rw [hg]
      exact h
    · rw [readOptions_argument hdashes] at h ⊢
      obtain ⟨next, hnext, hrest⟩ := bind_eq_ok.1 h
      exact bind_eq_ok.2 ⟨next, readArgument_of_settled hg hnext, hrest⟩

/-- After the option for a dry run the rest is read alike without it. -/
theorem readOptions_inEarnest (hp : NotDryRun pending) (hg : g.dryRun = true)
    (h : readOptions known g pending args = .ok r) :
    readOptions known g.inEarnest pending args = .ok r.inEarnest := by
  induction args generalizing g pending with
  | nil => exact (settlePending_inEarnest hp h).1
  | cons arg rest ih =>
    by_cases hdashes : arg.toList = ['-', '-']
    · rw [readOptions_dashes hdashes] at h ⊢
      split at h
      · rw [if_pos ‹_›]
        exact (settlePending_inEarnest hp h).1
      · cases h
    · rw [readOptions_argument hdashes] at h ⊢
      obtain ⟨next, hnext, hrest⟩ := bind_eq_ok.1 h
      have harg : arg ≠ dryRunArgument := by
        rintro rfl
        have hflag := settlePending_dryRun hp (readArgument_dryRun hnext).1
        exact absurd (hflag.trans hg) Bool.false_ne_true
      have hpass := readArgument_passes hp harg hnext
      exact bind_eq_ok.2 ⟨_, hpass.inEarnest,
        ih hpass.notDryRun (hpass.dryRun.trans hg) hrest⟩

/-- Options that come to a dry run have the argument for it, and without it they are the same in
earnest. -/
theorem readOptions_erase (hp : NotDryRun pending) (hg : g.dryRun = false)
    (h : readOptions known g pending args = .ok r) (hr : r.dryRun = true) :
    readOptions known g pending (args.erase dryRunArgument) = .ok r.inEarnest := by
  induction args generalizing g pending with
  | nil =>
    rw [readOptions] at h
    rw [settlePending_dryRun hp h, hg] at hr
    cases hr
  | cons arg rest ih =>
    by_cases hdashes : arg.toList = ['-', '-']
    · rw [readOptions_dashes hdashes] at h
      split at h
      · rw [settlePending_dryRun hp h, hg] at hr
        cases hr
      · cases h
    · rw [readOptions_argument hdashes] at h
      obtain ⟨next, hnext, hrest⟩ := bind_eq_ok.1 h
      by_cases harg : arg = dryRunArgument
      · subst harg
        obtain ⟨hsettled, hflag, hpending⟩ := readArgument_dryRun hnext
        rw [hpending] at hrest
        rw [List.erase_cons_head]
        exact readOptions_of_settled hsettled (readOptions_inEarnest notDryRun_none hflag hrest)
      · rw [List.erase_cons_tail (by simpa using harg), readOptions_argument hdashes]
        have hpass := readArgument_passes hp harg hnext
        have hflag := hpass.dryRun.trans hg
        have hstep := hpass.inEarnest
        rw [Given.inEarnest_of_false hg, Given.inEarnest_of_false hflag] at hstep
        exact bind_eq_ok.2 ⟨_, hstep, ih hpass.notDryRun hflag hrest⟩

/-! ## Commands -/

variable {manifest : String} {config out : Option String} {layout : Option Layout}
  {compile : Bool} {command : Command}

theorem manifestPath_eq_ok : g.manifestPath = .ok manifest ↔ g.manifest = some manifest := by
  unfold Given.manifestPath
  cases g.manifest <;> simp

theorem readGenerate_eq_ok : readGenerate args = .ok command ↔
    ∃ g manifest, readOptions generateOptions {} none args = .ok g ∧
      ¬ (g.dryRun && g.compile) = true ∧ g.manifest = some manifest ∧
      .generate manifest g.config g.out g.layout g.dryRun g.compile = command := by
  simp only [readGenerate, bind_eq_ok, check_eq_ok, pure_eq_ok, manifestPath_eq_ok]
  constructor
  · rintro ⟨g, hg, hexclusive, manifest, hmanifest, rfl⟩
    exact ⟨g, manifest, hg, hexclusive, hmanifest, rfl⟩
  · rintro ⟨g, manifest, hg, hexclusive, hmanifest, rfl⟩
    exact ⟨g, hg, hexclusive, manifest, hmanifest, rfl⟩

theorem readDescribe_ne_generate {dryRun : Bool} :
    readDescribe args ≠ .ok (.generate manifest config out layout dryRun compile) := by
  intro h
  obtain ⟨g, -, h⟩ := bind_eq_ok.1 h
  obtain ⟨path, -, h⟩ := bind_eq_ok.1 h
  cases h

/-- Arguments that come to a schema start with that command. -/
theorem exists_of_parse_generate {dryRun : Bool}
    (h : parse args = .ok (.generate manifest config out layout dryRun compile)) :
    ∃ rest, args = "generate" :: rest ∧
      readGenerate rest = .ok (.generate manifest config out layout dryRun compile) := by
  rw [parse.eq_def] at h
  split at h
  case h_4 rest => exact ⟨rest, rfl, h⟩
  case h_5 => exact absurd h readDescribe_ne_generate
  all_goals cases h

/-- **Dry runs.** The arguments for a dry run, without the one that says so, are those for the same
command in earnest. The compiler is not to run in either. -/
theorem parse_erase_dryRun
    (h : parse args = .ok (.generate manifest config out layout true compile)) :
    compile = false ∧
      parse (args.erase dryRunArgument) = .ok (.generate manifest config out layout false false) := by
  obtain ⟨rest, rfl, h⟩ := exists_of_parse_generate h
  obtain ⟨g, path, hg, hexclusive, hpath, hcommand⟩ := readGenerate_eq_ok.1 h
  injection hcommand with hmanifest hconfig hout hlayout hdryRun hcompile
  have hcompile' : g.compile = false := by simpa [hdryRun] using hexclusive
  subst hmanifest hconfig hout hlayout
  refine ⟨hcompile.symm.trans hcompile', ?_⟩
  have hearnest := readOptions_erase notDryRun_none rfl hg hdryRun
  rw [List.erase_cons_tail (by decide)]
  exact readGenerate_eq_ok.2 ⟨g.inEarnest, path, hearnest, nofun, hpath,
    congrArg (Command.generate path g.config g.out g.layout false) hcompile'⟩

end ServiceSchema.CommandLine
