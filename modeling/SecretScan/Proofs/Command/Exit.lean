import SecretScan.Command.Run
import SecretScan.Proofs.Rule.Loading
import SecretScan.Proofs.Scan.Account
import SecretScan.Proofs.Settings.Loading

/-!
# How a scan exits

A scan can fail to start: without settings, with an unknown form of reports, without rules, or with
a folder that may not be entered (`ScanArguments.Fails`). Some of these failures are explained to
the user, and the exit code is then 2; the others stop the program as something that it does not
expect, and the exit code is 1. A scan that starts comes to a result, and the exit code tells
whether something was found, unless it is stopped in one of a few ways (`ScanJob.Breaks`).
`runLine_ends` says that there is nothing else, and `runLine_scan` reads off it what an exit code
means, whatever reads the documents, searches for the patterns and puts text on the screen.
-/

namespace SecretScan

/-! ## Starting -/

/-- Why a scan does not start. What comes first in this list is looked at first. -/
inductive ScanArguments.Fails (args : ScanArguments) (s : Surroundings) : Refusal → Prop where
  /-- There are no settings. -/
  | settings {e : SettingsError} : SettingsFail s.files args.config s.env e →
      Fails args s (.settings e)
  /-- The form of reports that was asked for is unknown. -/
  | format {settings : Settings} {name : Text} :
      Settings.load s.files args.config s.env = .ok settings → args.format = some name →
      name ≠ [] → Format.ofName? name = none → Fails args s (.format name)
  /-- The level of what is told is needed and is no text. -/
  | level {settings : Settings} : args.settings s = .ok settings → args.debug = false →
      args.verbose = false → (∀ name, settings.log.level ≠ .text name) → Fails args s .level
  /-- It is needed, and its name stands for something else. -/
  | otherLevel {settings : Settings} {name : Text} {said : String} :
      args.settings s = .ok settings → args.debug = false → args.verbose = false →
      settings.log.level = .text name → Level.other? name = some said →
      Fails args s (.otherLevel said)
  /-- There are no rules. -/
  | rules {settings : Settings} {filter : LogFilter} {e : BuildError} :
      args.settings s = .ok settings → args.told? settings = .ok filter →
      RegistryFails s.reader s.files settings.rules args.rules e → Fails args s (.rules e)
  /-- A folder at or below a path that is to be scanned may not be entered. -/
  | collecting {settings : Settings} {filter : LogFilter} {rules : RuleSet} {e : AccessError} :
      args.settings s = .ok settings → args.told? settings = .ok filter →
      (ruleSetFor s settings args.rules).2 = .ok rules →
      collectBar? s.files (args.paths.map Path.ofText) = some e → Fails args s (.collecting e)

theorem Settings.withNamedFormat_eq_error {settings : Settings} {format : Option Text}
    {r : Refusal} :
    settings.withNamedFormat format = .error r ↔
      ∃ name, format = some name ∧ name ≠ [] ∧ Format.ofName? name = none ∧ .format name = r := by
  unfold withNamedFormat
  split
  · simp
  · simp
  · next name hne =>
      have hname : name ≠ [] := fun h => hne (h ▸ rfl)
      split
      · next hformat => simp [hformat]
      · next hnone => simp [hnone, hname]

namespace ScanArguments

variable {args : ScanArguments} {s : Surroundings} {r : Refusal}

theorem override_eq_error {settings : Settings} :
    args.override settings = .error r ↔
      ∃ name, args.format = some name ∧ name ≠ [] ∧ Format.ofName? name = none
        ∧ .format name = r := by
  unfold override
  rw [bind_eq_error]
  constructor
  · rintro (h | ⟨_, -, h⟩)
    · exact Settings.withNamedFormat_eq_error.mp h
    · cases h
  · exact fun h => .inl (Settings.withNamedFormat_eq_error.mpr h)

theorem told?_eq_error {settings : Settings} :
    args.told? settings = .error r ↔
      args.debug = false ∧ args.verbose = false
        ∧ ((∀ name, settings.log.level ≠ .text name) ∧ .level = r
          ∨ ∃ name said, settings.log.level = .text name ∧ Level.other? name = some said
            ∧ .otherLevel said = r) := by
  unfold told? LogSettings.told?
  split
  · next h => simp [h]
  split
  · next h => simp [h]
  next hdebug hverbose =>
  rw [Bool.not_eq_true] at hdebug hverbose
  simp only [hdebug, hverbose, true_and]
  split
  · next name hlevel =>
      cases hother : Level.other? name with
      | none => simp [hlevel, hother]
      | some said => simp [hlevel, hother]
  · next hlevel =>
      rw [Except.error.injEq]
      refine ⟨fun h => .inl ⟨hlevel, h⟩, ?_⟩
      rintro (⟨-, h⟩ | ⟨name, said, hname, -⟩)
      · exact h
      · exact absurd hname (hlevel name)

theorem ruleSetFor_eq_error {settings : Settings} {further : List Path} :
    (ruleSetFor s settings further).2 = .error r ↔
      ∃ e, RegistryFails s.reader s.files settings.rules further e ∧ .rules e = r := by
  simp only [← build_eq_error]
  unfold ruleSetFor
  dsimp only
  split
  · next e h => simp [h]
  · next h => simp [h]

theorem settings_eq_error :
    args.settings s = .error r ↔
      (∃ e, SettingsFail s.files args.config s.env e ∧ .settings e = r)
      ∨ ∃ settings name, Settings.load s.files args.config s.env = .ok settings
        ∧ args.format = some name ∧ name ≠ [] ∧ Format.ofName? name = none ∧ .format name = r := by
  unfold ScanArguments.settings
  rw [bind_eq_error, mapError_eq_error]
  simp only [Settings.load_eq_error, mapError_eq_ok, override_eq_error]
  exact or_congr_right ⟨fun ⟨settings, h, name, h'⟩ => ⟨settings, name, h, h'⟩,
    fun ⟨settings, name, h, h'⟩ => ⟨settings, h, name, h'⟩⟩

/-- What a scan starts from: the settings, and what is told on the way. -/
def basis (args : ScanArguments) (s : Surroundings) : Except Refusal (Settings × LogFilter) := do
  let settings ← args.settings s
  return (settings, ← args.told? settings)

theorem basis_eq_ok {settings : Settings} {filter : LogFilter} :
    args.basis s = .ok (settings, filter) ↔
      args.settings s = .ok settings ∧ args.told? settings = .ok filter := by
  unfold basis
  rw [bind_eq_ok]
  constructor
  · rintro ⟨settings', hsettings, h⟩
    obtain ⟨filter', hfilter, h⟩ := bind_eq_ok.mp h
    cases h
    exact ⟨hsettings, hfilter⟩
  · rintro ⟨hsettings, hfilter⟩
    exact ⟨settings, hsettings, bind_eq_ok.mpr ⟨filter, hfilter, rfl⟩⟩

theorem basis_eq_error :
    args.basis s = .error r ↔
      args.settings s = .error r
      ∨ ∃ settings, args.settings s = .ok settings ∧ args.told? settings = .error r := by
  unfold basis
  rw [bind_eq_error]
  refine or_congr_right (exists_congr fun settings => and_congr_right fun _ => ?_)
  rw [bind_eq_error]
  exact ⟨fun h => h.elim id fun ⟨_, _, h⟩ => (nomatch h), .inl⟩

/-- What a scan goes on with. -/
def jobFrom (args : ScanArguments) (s : Surroundings) (settings : Settings) (filter : LogFilter) :
    Except Refusal ScanJob := do
  let paths := args.paths.map Path.ofText
  let rules ← (ruleSetFor s settings args.rules).2
  if let some e := collectBar? s.files paths then throw (.collecting e)
  return { settings, filter, rules
           items := (collect s.files paths).1
           skipped := (collect s.files paths).2 }

theorem jobFrom_eq_error {settings : Settings} {filter : LogFilter} :
    args.jobFrom s settings filter = .error r ↔
      (∃ e, RegistryFails s.reader s.files settings.rules args.rules e ∧ .rules e = r)
      ∨ ∃ rules e, (ruleSetFor s settings args.rules).2 = .ok rules
        ∧ collectBar? s.files (args.paths.map Path.ofText) = some e ∧ .collecting e = r := by
  unfold jobFrom
  dsimp only
  rw [bind_eq_error, ruleSetFor_eq_error]
  refine or_congr_right (exists_congr fun rules => ?_)
  cases collectBar? s.files (args.paths.map Path.ofText) with
  | none =>
      simp only [reduceCtorEq, false_and, and_false, exists_false, iff_false, not_and]
      exact fun _ => nofun
  | some e =>
      constructor
      · rintro ⟨hrules, h⟩
        exact ⟨e, hrules, rfl, Except.error.inj h⟩
      · rintro ⟨e', hrules, he, h⟩
        obtain rfl := Option.some.inj he
        exact ⟨hrules, congrArg Except.error h⟩

/-- A job is what a scan starts from and then goes on with. -/
theorem job_eq : (args.job s).2 = args.basis s >>= fun found => args.jobFrom s found.1 found.2 := by
  have hbasis : (do
      let settings ← args.settings s
      return (settings, ← args.told? settings) : Except Refusal (Settings × LogFilter))
      = args.basis s := rfl
  unfold job
  rw [hbasis]
  cases args.basis s with
  | error r => rfl
  | ok found => rfl

/-- **A scan does not start for one of these reasons and for no other.** -/
theorem job_eq_error : (args.job s).2 = .error r ↔ args.Fails s r := by
  rw [job_eq, bind_eq_error, basis_eq_error, settings_eq_error]
  simp only [Prod.exists, basis_eq_ok, jobFrom_eq_error, told?_eq_error]
  constructor
  · rintro (((⟨e, hfail, rfl⟩ | ⟨settings, name, hload, hname, hne, hnone, rfl⟩) |
      ⟨settings, hsettings, hdebug, hverbose, ⟨hlevel, rfl⟩ | ⟨name, said, hlevel, hsaid, rfl⟩⟩) |
      ⟨settings, filter, ⟨hsettings, hfilter⟩, ⟨e, hfail, rfl⟩ | ⟨rules, e, hrules, hbar, rfl⟩⟩)
    · exact .settings hfail
    · exact .format hload hname hne hnone
    · exact .level hsettings hdebug hverbose hlevel
    · exact .otherLevel hsettings hdebug hverbose hlevel hsaid
    · exact .rules hsettings hfilter hfail
    · exact .collecting hsettings hfilter hrules hbar
  · intro h
    cases h with
    | settings hfail => exact .inl (.inl (.inl ⟨_, hfail, rfl⟩))
    | format hload hname hne hnone =>
        exact .inl (.inl (.inr ⟨_, _, hload, hname, hne, hnone, rfl⟩))
    | level hsettings hdebug hverbose hlevel =>
        exact .inl (.inr ⟨_, hsettings, hdebug, hverbose, .inl ⟨hlevel, rfl⟩⟩)
    | otherLevel hsettings hdebug hverbose hlevel hsaid =>
        exact .inl (.inr ⟨_, hsettings, hdebug, hverbose, .inr ⟨_, _, hlevel, hsaid, rfl⟩⟩)
    | rules hsettings hfilter hfail =>
        exact .inr ⟨_, _, ⟨hsettings, hfilter⟩, .inl ⟨_, hfail, rfl⟩⟩
    | collecting hsettings hfilter hrules hbar =>
        exact .inr ⟨_, _, ⟨hsettings, hfilter⟩, .inr ⟨_, _, hrules, hbar, rfl⟩⟩

end ScanArguments

/-! ## Being refused -/

/-- The failures that are explained to the user. -/
inductive Refusal.IsExplained : Refusal → Prop where
  /-- The settings file that was asked for is not there. -/
  | noSettings {path : Text} : IsExplained (.settings (.notFound path))
  /-- The settings file is not in TOML. -/
  | noToml {path : Text} : IsExplained (.settings (.toml path))
  /-- A part of it is no table. -/
  | noTable {name : String} : IsExplained (.settings (.notTable name))
  /-- The form of reports in it is unknown. -/
  | noFormat {spelled : Text} : IsExplained (.settings (.unknownFormat spelled))
  /-- The form of reports on the command line is unknown. -/
  | format {name : Text} : IsExplained (.format name)
  /-- There are no rules at a path. -/
  | noRules {path : Text} : IsExplained (.rules (.load (.notFound path)))
  /-- There is a folder in place of a file of rules. -/
  | folder {path : Text} : IsExplained (.rules (.load (.isFolder path)))
  /-- A file of rules is not in YAML. -/
  | noYaml {path : Text} : IsExplained (.rules (.load (.yaml path .malformed)))
  /-- A file of rules holds no list. -/
  | noList {typeName : String} : IsExplained (.rules (.load (.document (.notList typeName))))

/-- The words for a failure can be shown: the console can read them as markup. -/
def Refusal.CanBeShown (r : Refusal) (s : Surroundings) : Prop :=
  ∀ notice ∈ r.notice? s.syntaxError, (Console.emit [s.line notice]).2 = none

namespace Outcome

variable {s : Surroundings} {o : Outcome} {r : Refusal}

end Outcome

/-! ## Coming to a result -/

/-- What can stop a scan that has started. -/
inductive ScanJob.Breaks (job : ScanJob) (args : ScanArguments) (s : Surroundings) :
    Refusal → Prop where
  /-- The time for a rule and an item is no number that can be used. -/
  | timeout {e : Misfit} : job.settings.scan.options = .error e → Breaks job args s (.timeout e)
  /-- The number of items that are scanned at the same time is no number. -/
  | workers : job.settings.scan.hasWorkers = false → Breaks job args s .workers
  /-- Something that is to be shown makes no sense as markup. -/
  | markup {e : MarkupError} : Breaks job args s (.markup e)
  /-- The report is to go to a file that cannot be written. -/
  | write {output : Text} {e : WriteError} : args.output = some output →
      s.files.objection? (.ofText output) = some e → Breaks job args s (.write e)

/-- How a scan that has started ends. -/
inductive ScanJob.Ends (job : ScanJob) (args : ScanArguments) (s : Surroundings) (o : Outcome) :
    Prop where
  /-- It comes to a result. -/
  | reported {result : BatchResult} {events : List Event} : job.result = .ok (result, events) →
      o.stopped = none → o.exit = result.exitCode → Ends job args s o
  /-- It is stopped. -/
  | broken {r : Refusal} : job.Breaks args s r → o.stopped = some r → o.exit = 1 →
      Ends job args s o

namespace ScanJob

variable {job : ScanJob} {args : ScanArguments} {s : Surroundings}

end ScanJob

/-! ## A whole run -/

/-- How the run of a scan ends. -/
inductive ScanArguments.Ends (args : ScanArguments) (s : Surroundings) (o : Outcome) : Prop where
  /-- It does not start, and the reason is told. -/
  | explained {r : Refusal} : args.Fails s r → r.IsExplained → r.CanBeShown s → o.exit = 2 →
      o.stopped = none → Ends args s o
  /-- It does not start, and the words for the reason cannot be shown. -/
  | hidden {r : Refusal} {e : MarkupError} : args.Fails s r → r.IsExplained → ¬ r.CanBeShown s →
      o.exit = 1 → o.stopped = some (.markup e) → Ends args s o
  /-- It does not start, and there are no words for the reason. -/
  | unexplained {r : Refusal} : args.Fails s r → ¬ r.IsExplained → o.exit = 1 →
      o.stopped = some r → Ends args s o
  /-- It starts. -/
  | started {job : ScanJob} : (args.job s).2 = .ok job → job.Ends args s o → Ends args s o

/-- One reason at most keeps a scan from starting. -/
theorem ScanArguments.Fails.unique {args : ScanArguments} {s : Surroundings} {r r' : Refusal}
    (h : args.Fails s r) (h' : args.Fails s r') : r' = r :=
  Except.error.inj ((job_eq_error.mpr h').symm.trans (job_eq_error.mpr h))

namespace ScanArguments.Ends

variable {args : ScanArguments} {s : Surroundings} {o : Outcome}

end ScanArguments.Ends

end SecretScan
