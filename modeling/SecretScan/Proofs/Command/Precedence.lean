import SecretScan.Proofs.Command.Exit
import SecretScan.Proofs.Settings.Typing

/-!
# Whose word counts

A setting may be written in the settings file, said by the environment and asked for on the command
line. What is asked for counts before what is said, and that before what is written; what makes no
sense counts as nothing (`Settings.InEffect`). The settings are changed one after the other, but
each change is to one of them only, so this can be told for each of them without the others.
-/

namespace SecretScan

/-! ## What is written -/

/-- Whether the value is a table. -/
def Datum.isTable : Datum → Bool
  | map _ => true
  | _ => false

/-- Every value that a settings file gives is of the type that it should have. -/
structure Datum.WellTyped (file : Datum) : Prop where
  version : ∀ value ∈ file.get? "version", SettingType.text.holds value = true
  part : ∀ name ∈ ["scan", "scoring", "rules", "output", "logging"], ∀ value ∈ file.get? name,
    value.isTable = true
  format : ∀ value ∈ (file.get? "output").bind (·.get? "format"),
    ∃ format ∈ [Format.terminal, .json, .sarif], value.isText format.name = true
  setting : ∀ f ∈ schema, ∀ value ∈ f.inFile? file, f.type.holds value = true

instance (file : Datum) : Decidable file.WellTyped :=
  decidable_of_iff
    ((∀ value ∈ file.get? "version", SettingType.text.holds value = true)
      ∧ (∀ name ∈ ["scan", "scoring", "rules", "output", "logging"], ∀ value ∈ file.get? name,
        value.isTable = true)
      ∧ (∀ value ∈ (file.get? "output").bind (·.get? "format"),
        ∃ format ∈ [Format.terminal, .json, .sarif], value.isText format.name = true)
      ∧ ∀ f ∈ schema, ∀ value ∈ f.inFile? file, f.type.holds value = true)
    ⟨fun ⟨version, part, format, setting⟩ => ⟨version, part, format, setting⟩,
      fun h => ⟨h.version, h.part, h.format, h.setting⟩⟩

/-- The form of reports that a settings file names. -/
def Datum.format? (file : Datum) : Option Format :=
  match (file.get? "output").bind (·.get? "format") with
  | some (.text name) => Format.ofName? name
  | _ => none

variable {file : Datum} {s s' : Settings} {env : Environment} {args : ScanArguments} {name : String}

theorem Format.ofName?_name (format : Format) : ofName? format.name.toList = some format := by
  cases format <;> rfl

theorem SettingType.text_holds {value : Datum} (h : text.holds value = true) :
    ∃ t, value = .text t := by
  cases value with
  | text t => exact ⟨t, rfl⟩
  | _ => cases h

namespace Datum.WellTyped

theorem exists_version (h : file.WellTyped) :
    ∃ t, file.setting "version" (.text ({} : Settings).version) = .text t := by
  rw [Datum.setting]
  cases hvalue : file.get? "version" with
  | none => exact ⟨_, rfl⟩
  | some value => exact SettingType.text_holds (h.version value hvalue)

theorem exists_format (h : file.WellTyped) :
    ∃ format : Format, ((file.get? "output").bind (·.get? "format")).getD
        (.text ({} : Settings).output.format.name.toList) = .text format.name.toList
      ∧ file.format?.getD .terminal = format := by
  unfold Datum.format?
  cases hvalue : (file.get? "output").bind (·.get? "format") with
  | none => exact ⟨.terminal, rfl, rfl⟩
  | some value =>
      obtain ⟨format, -, hname⟩ := h.format value hvalue
      obtain rfl := Datum.isText_iff.mp hname
      refine ⟨format, rfl, ?_⟩
      dsimp only
      rw [Format.ofName?_name, Option.getD_some]

theorem not_versionFails (h : file.WellTyped) (e : SettingsError) : ¬ VersionFails file e := by
  rintro ⟨hspell⟩
  obtain ⟨t, ht⟩ := h.exists_version
  rw [ht] at hspell
  cases hspell

theorem not_sectionFails (h : file.WellTyped)
    (hname : name ∈ ["scan", "scoring", "rules", "output", "logging"]) (e : SettingsError) :
    ¬ SectionFails file name e := by
  rintro ⟨hvalue, hmap⟩
  have htable := h.part name hname _ hvalue
  unfold Datum.isTable at htable
  split at htable
  · next entries => exact hmap entries rfl
  · cases htable

theorem not_formatFails (h : file.WellTyped) (e : SettingsError) : ¬ FormatFails file e := by
  rintro ⟨houtput, hnone⟩
  obtain ⟨format, hformat, -⟩ := h.exists_format
  rw [Datum.setting, get?_of_section houtput, hformat] at hnone
  cases hnone with
  | unknown hname hunknown =>
      cases hname
      rw [Format.ofName?_name] at hunknown
      cases hunknown
  | notText hne => exact hne _ rfl
  | tooManyDigits hne => exact hne _ rfl

/-- A file whose values have their types holds settings. -/
theorem exists_settings (h : file.WellTyped) :
    ∃ s, Settings.ofDatum file = .ok s ∧ s.TakenFrom file := by
  cases hs : Settings.ofDatum file with
  | ok s => exact ⟨s, rfl, Settings.takenFrom_ofDatum hs⟩
  | error e =>
      obtain ⟨check, hmem, hcheck⟩ := (ofDatum_eq_error.mp hs).exists_mem
      simp only [settingsChecks, List.mem_cons, List.not_mem_nil, or_false] at hmem
      rcases hmem with rfl | rfl | rfl | rfl | rfl | rfl | rfl
      · exact absurd hcheck (h.not_versionFails e)
      · exact absurd hcheck (h.not_sectionFails (by decide) e)
      · exact absurd hcheck (h.not_sectionFails (by decide) e)
      · exact absurd hcheck (h.not_sectionFails (by decide) e)
      · exact absurd hcheck (h.not_sectionFails (by decide) e)
      · exact absurd hcheck (h.not_sectionFails (by decide) e)
      · exact absurd hcheck (h.not_formatFails e)

theorem version_eq (h : file.WellTyped) (htaken : s.TakenFrom file) :
    file.setting "version" (.text ({} : Settings).version) = .text s.version := by
  obtain ⟨t, ht⟩ := h.exists_version
  have hspell := htaken.version
  rw [ht] at hspell ⊢
  exact congrArg Datum.text (Option.some.inj hspell)

theorem format_eq (h : file.WellTyped) (htaken : s.TakenFrom file) :
    s.output.format = file.format?.getD .terminal := by
  obtain ⟨format, hformat, hfile⟩ := h.exists_format
  have hname := congrArg Format.ofName? (Datum.text.inj (htaken.format.symm.trans hformat))
  rw [Format.ofName?_name, Format.ofName?_name] at hname
  exact (Option.some.inj hname).trans hfile.symm

theorem holds (h : file.WellTyped) {f : Setting} (hf : f ∈ schema) :
    f.type.holds (f.written file) = true :=
  written_holds hf (h.setting f hf)

/-- A list of texts is a list. -/
theorem exists_disable (h : file.WellTyped) (htaken : s.TakenFrom file) :
    ∃ off, s.rules.disable = .list off := by
  have hmem :
      ({ part := "rules", name := "disable", type := .texts,
         source := some "SECRETLENS_DISABLE_RULES",
         value := fun s => s.rules.disable } : Setting) ∈ schema := by
    simp [schema]
  have hholds : SettingType.texts.holds s.rules.disable = true := by
    have hwritten := h.holds hmem
    rwa [← htaken.value _ hmem] at hwritten
  cases hdisable : s.rules.disable with
  | list off => exact ⟨off, rfl⟩
  | _ =>
      rw [hdisable] at hholds
      cases hholds

end Datum.WellTyped

/-! ## What the environment says -/

/-- What a variable makes of the value below it; nothing if its value makes no sense. -/
def readVariable? (name : String) (t : Text) (below : Datum) : Option Datum :=
  match name, below with
  | "SECRETLENS_LOG_LEVEL", _ => (levelOf? t).map .text
  | "SECRETLENS_TIMEOUT_MS", _ => (Decimal.readInt? t).map .int
  | "SECRETLENS_MAX_WORKERS", _ => (Decimal.readInt? t).map fun n => .int (max 1 n)
  | "SECRETLENS_MIN_ENTROPY", _ => (Decimal.readFloat? t).map .float
  | "SECRETLENS_DISABLE_RULES", .list off => some (.list (off ++ (commaNames t).map .text))
  | _, _ => none

/-- What the environment says through a variable, where `below` is the value without it. -/
def Environment.said? (env : Environment) (name : String) (below : Datum) : Option Datum :=
  (env.get? name).bind fun t => readVariable? name t below

/-- The form of reports that the environment says. -/
def Environment.format? (env : Environment) : Option Format :=
  (env.get? "SECRETLENS_FORMAT").bind Format.ofName?

/-- What the environment says a setting is. -/
def Setting.said? (f : Setting) (env : Environment) (below : Datum) : Option Datum :=
  f.source.bind fun name => env.said? name below

theorem Environment.said?_eq {α : Type} {read : Text → Option α} {make : α → Datum} {below : Datum}
    (h : ∀ t, readVariable? name t below = (read t).map make) :
    env.said? name below = ((env.get? name).bind read).map make := by
  rw [said?, Option.map_bind]
  exact Option.bind_congr fun t _ => h t

namespace Settings

theorem withFormat_eq : s.withFormat env
    = { s with output := { s.output with format := env.format?.getD s.output.format } } := by
  unfold withFormat
  rw [Environment.format?]
  cases (env.get? "SECRETLENS_FORMAT").bind Format.ofName? <;> rfl

theorem withLevel_eq : s.withLevel env = { s with
    log := { s.log with
      level := (env.said? "SECRETLENS_LOG_LEVEL" s.log.level).getD s.log.level } } := by
  rw [Environment.said?_eq (fun _ => rfl), withLevel]
  cases (env.get? "SECRETLENS_LOG_LEVEL").bind levelOf? <;> rfl

theorem withTimeout_eq : s.withTimeout env = { s with
    scan := { s.scan with
      timeout := (env.said? "SECRETLENS_TIMEOUT_MS" s.scan.timeout).getD s.scan.timeout } } := by
  rw [Environment.said?_eq (fun _ => rfl), withTimeout]
  cases (env.get? "SECRETLENS_TIMEOUT_MS").bind Decimal.readInt? <;> rfl

theorem withWorkers_eq : s.withWorkers env = { s with
    scan := { s.scan with
      maxWorkers :=
        (env.said? "SECRETLENS_MAX_WORKERS" s.scan.maxWorkers).getD s.scan.maxWorkers } } := by
  rw [Environment.said?_eq (fun _ => rfl), withWorkers]
  cases (env.get? "SECRETLENS_MAX_WORKERS").bind Decimal.readInt? <;> rfl

theorem withEntropy_eq : s.withEntropy env = { s with
    scan := { s.scan with
      minEntropy :=
        (env.said? "SECRETLENS_MIN_ENTROPY" s.scan.minEntropy).getD s.scan.minEntropy } } := by
  rw [Environment.said?_eq (fun _ => rfl), withEntropy]
  cases (env.get? "SECRETLENS_MIN_ENTROPY").bind Decimal.readFloat? <;> rfl

theorem withDisabled_eq {off : List Datum} (h : s.rules.disable = .list off) :
    s.withDisabled env = .ok { s with
      rules := { s.rules with
        disable :=
          (env.said? "SECRETLENS_DISABLE_RULES" s.rules.disable).getD s.rules.disable } } := by
  rw [withDisabled, Environment.said?, h]
  cases env.get? "SECRETLENS_DISABLE_RULES" with
  | none =>
      rw [← h]
      rfl
  | some t => rfl

/-- The environment changes each setting by itself. -/
theorem override_said {off : List Datum} (h : s.rules.disable = .list off) :
    ∃ s', s.override env = .ok s' ∧ s'.version = s.version
      ∧ s'.output.format = env.format?.getD s.output.format
      ∧ ∀ f ∈ schema, f.value s' = (f.said? env (f.value s)).getD (f.value s) := by
  rw [override, withFormat_eq, withLevel_eq, withTimeout_eq, withWorkers_eq, withEntropy_eq]
  refine ⟨_, withDisabled_eq h, rfl, rfl, ?_⟩
  simp only [schema, List.forall_mem_cons]
  exact ⟨rfl, rfl, rfl, rfl, rfl, rfl, rfl, rfl, rfl, rfl, rfl, rfl, rfl, rfl,
    List.forall_mem_nil _⟩

end Settings

/-! ## What the command line asks for -/

/-- The form of reports that the command line names. An empty name is as good as none. -/
def ScanArguments.format? (args : ScanArguments) : Option Format :=
  args.format.bind Format.ofName?

/-- What the command line asks a setting to be. -/
def Setting.asked? (f : Setting) (args : ScanArguments) : Option Datum :=
  match f.name with
  | "max_workers" => args.workers.map fun n => .int (max 1 n)
  | "min_confidence" => args.minScore.map .int
  | "builtin" => if args.withoutBuiltin then some (.bool false) else none
  | _ => none

theorem Settings.withNamedFormat_eq_ok {format : Option Text}
    (h : s.withNamedFormat format = .ok s') : s' = { s with output := { s.output with
      format := (format.bind Format.ofName?).getD s.output.format } } := by
  unfold withNamedFormat at h
  split at h
  · cases h
    rfl
  · cases h
    rfl
  · next name _ =>
      rw [Option.bind_some]
      split at h
      · next format hformat =>
          cases h
          rw [hformat]
          rfl
      · cases h

theorem ScanArguments.eq_of_override (h : args.override s = .ok s') : s' = { s with
    scan := { s.scan with
      maxWorkers := (args.workers.map fun n => .int (max 1 n)).getD s.scan.maxWorkers }
    scoring := ⟨(args.minScore.map .int).getD s.scoring.minScore⟩
    rules := { s.rules with
      builtin := (if args.withoutBuiltin then some (.bool false) else none).getD s.rules.builtin }
    output := { s.output with format := args.format?.getD s.output.format } } := by
  obtain ⟨named, hnamed, h⟩ := bind_eq_ok.mp h
  obtain rfl := Settings.withNamedFormat_eq_ok hnamed
  obtain rfl := Except.ok.inj h
  cases args.minScore <;> cases args.workers <;> cases args.withoutBuiltin <;> rfl

/-- The command line changes each setting by itself. -/
theorem ScanArguments.override_asked (h : args.override s = .ok s') :
    s'.version = s.version ∧ s'.output.format = args.format?.getD s.output.format
      ∧ ∀ f ∈ schema, f.value s' = (f.asked? args).getD (f.value s) := by
  obtain rfl := eq_of_override h
  refine ⟨rfl, rfl, ?_⟩
  simp only [schema, List.forall_mem_cons]
  exact ⟨rfl, rfl, rfl, rfl, rfl, rfl, rfl, rfl, rfl, rfl, rfl, rfl, rfl, rfl,
    List.forall_mem_nil _⟩

/-! ## All together -/

/-- The settings that count in a scan: what is asked for, or else what is said, or else what is
written, or else the usual. -/
structure Settings.InEffect (s : Settings) (args : ScanArguments) (env : Environment)
    (file : Datum) : Prop where
  version : file.setting "version" (.text ({} : Settings).version) = .text s.version
  format : s.output.format = ((args.format?.or env.format?).or file.format?).getD .terminal
  value : ∀ f ∈ schema,
    f.value s = ((f.asked? args).or (f.said? env (f.written file))).getD (f.written file)

/-- The settings before the command line says anything. -/
theorem Datum.WellTyped.exists_load {fs : Files} {asked : Option Text} (h : file.WellTyped)
    (hreads : Settings.Reads fs asked file) (env : Environment) :
    ∃ s, Settings.load fs asked env = .ok s
      ∧ file.setting "version" (.text ({} : Settings).version) = .text s.version
      ∧ s.output.format = (env.format?.or file.format?).getD .terminal
      ∧ ∀ f ∈ schema,
        f.value s = (f.said? env (f.written file)).getD (f.written file) := by
  obtain ⟨written, hwritten, htaken⟩ := h.exists_settings
  obtain ⟨off, hoff⟩ := h.exists_disable htaken
  obtain ⟨said, hsaid, hversion, hformat, hvalue⟩ := @Settings.override_said _ env _ hoff
  refine ⟨said, ?_, ?_, ?_, fun f hf => ?_⟩
  · rw [Settings.load_of_reads hreads, hwritten]
    exact hsaid
  · rw [hversion]
    exact h.version_eq htaken
  · rw [hformat, h.format_eq htaken, Option.getD_or]
  · rw [hvalue f hf, htaken.value f hf]

/-- Command line, environment and file each have their turn. -/
theorem ScanArguments.inEffect {sur : Surroundings}
    (hreads : Settings.Reads sur.files args.config file) (htyped : file.WellTyped)
    (h : args.settings sur = .ok s) : s.InEffect args sur.env file := by
  obtain ⟨said, hload, hversion, hformat, hvalue⟩ := htyped.exists_load hreads sur.env
  unfold ScanArguments.settings at h
  rw [hload] at h
  obtain ⟨hversion', hformat', hvalue'⟩ := override_asked h
  refine ⟨?_, ?_, fun f hf => ?_⟩
  · rw [hversion', hversion]
  · rw [hformat', hformat, ← Option.getD_or, Option.or_assoc]
  · rw [hvalue' f hf, hvalue f hf, Option.getD_or]

/-- A scan that starts goes by its settings. -/
theorem ScanArguments.basis_of_job {sur : Surroundings} {job : ScanJob}
    (h : (args.job sur).2 = .ok job) : args.basis sur = .ok (job.settings, job.filter) := by
  rw [job_eq] at h
  obtain ⟨⟨settings, filter⟩, hbasis, h⟩ := bind_eq_ok.mp h
  obtain ⟨rules, -, h⟩ := bind_eq_ok.mp h
  dsimp only at h
  split at h
  · cases h
  · cases h
    exact hbasis

/-- The level of what is told is a text, whoever names it. -/
theorem Settings.InEffect.exists_level (h : s.InEffect args env file) (htyped : file.WellTyped) :
    ∃ level, s.log.level = .text level := by
  have hmem :
      ({ part := "logging", name := "level", type := .text,
         source := some "SECRETLENS_LOG_LEVEL", value := fun s => s.log.level } : Setting)
        ∈ schema := by
    simp [schema]
  have hwritten := htyped.holds hmem
  have hvalue := h.value _ hmem
  obtain ⟨below, hbelow⟩ := SettingType.text_holds hwritten
  rw [hbelow] at hvalue
  have hlevel : s.log.level
      = (env.said? "SECRETLENS_LOG_LEVEL" (.text below)).getD (.text below) := hvalue
  rw [Environment.said?_eq (fun _ => rfl)] at hlevel
  cases hsaid : (env.get? "SECRETLENS_LOG_LEVEL").bind levelOf? with
  | none =>
      rw [hsaid] at hlevel
      exact ⟨below, hlevel⟩
  | some said =>
      rw [hsaid] at hlevel
      exact ⟨said, hlevel⟩

theorem ScanArguments.told?_eq_ok {level : Text} {filter : LogFilter}
    (hlevel : s.log.level = .text level) (h : args.told? s = .ok filter) :
    filter = ⟨if args.debug then .debug else if args.verbose then .info
      else (Level.ofName? level).getD .warning, s.log.json.isGiven⟩ := by
  unfold told? LogSettings.told? at h
  rw [hlevel] at h
  split at h
  · next hdebug => rw [if_pos hdebug, Except.ok.inj h]
  next hdebug =>
  rw [if_neg hdebug]
  split at h
  · next hverbose => rw [if_pos hverbose, Except.ok.inj h]
  next hverbose =>
  rw [if_neg hverbose]
  dsimp only at h
  split at h
  · exact (Except.ok.inj h).symm
  · cases h

/-- **Asked for, said, written.** For a settings file whose values have their types, or none, and
unless a form of reports is asked for that is unknown, every setting has the value that the command
line asks for, or else the one that the environment says, or else the one in the file. The scan goes
by these settings, and tells what the level in them lets through unless the command line asks for
more. Whatever the environment or the command line says otherwise, a setting of which they say the
same keeps its value. -/
theorem ScanArguments.settings_precedence {sur : Surroundings}
    (hreads : Settings.Reads sur.files args.config file) (htyped : file.WellTyped) :
    ((∃ name, args.format = some name ∧ name ≠ [] ∧ Format.ofName? name = none
          ∧ args.settings sur = .error (.format name))
        ∨ ∃ s level, args.settings sur = .ok s ∧ s.InEffect args sur.env file
          ∧ s.log.level = .text level
          ∧ ∀ job, (args.job sur).2 = .ok job → job.settings = s
            ∧ job.filter.least = (if args.debug then .debug else if args.verbose then .info
              else (Level.ofName? level).getD .warning))
      ∧ ∀ args' env' s s', args'.config = args.config → args.settings sur = .ok s →
          args'.settings { sur with env := env' } = .ok s' →
          (args'.format? = args.format? → env'.format? = sur.env.format? →
            s'.output.format = s.output.format)
          ∧ ∀ f ∈ schema, f.asked? args' = f.asked? args →
            f.said? env' (f.written file) = f.said? sur.env (f.written file) →
            f.value s' = f.value s := by
  constructor
  · cases hsettings : args.settings sur with
    | error r =>
        rcases settings_eq_error.mp hsettings with ⟨e, hfail, rfl⟩ |
          ⟨settings, name, -, hname, hne, hnone, rfl⟩
        · obtain ⟨said, hload, -⟩ := htyped.exists_load hreads sur.env
          exact nomatch hload.symm.trans (Settings.load_eq_error.mpr hfail)
        · exact .inl ⟨name, hname, hne, hnone, rfl⟩
    | ok s =>
        have heffect : s.InEffect args sur.env file := inEffect hreads htyped hsettings
        obtain ⟨level, hlevel⟩ := heffect.exists_level htyped
        refine .inr ⟨s, level, rfl, heffect, hlevel, fun job hjob => ?_⟩
        obtain ⟨hjob, hfilter⟩ := basis_eq_ok.mp (basis_of_job hjob)
        obtain rfl := Except.ok.inj (hsettings.symm.trans hjob)
        exact ⟨rfl, congrArg LogFilter.least (told?_eq_ok hlevel hfilter)⟩
  · intro args' env' s s' hconfig hs hs'
    have heffect : s.InEffect args sur.env file := inEffect hreads htyped hs
    have heffect' : s'.InEffect args' env' file := inEffect (hconfig ▸ hreads) htyped hs'
    refine ⟨fun hasked hsaid => ?_, fun f hf hasked hsaid => ?_⟩
    · rw [heffect'.format, heffect.format, hasked, hsaid]
    · rw [heffect'.value f hf, heffect.value f hf, hasked, hsaid]

/-- A settings file that is in TOML. -/
def mixedText : Text :=
  ("[scan]\ntimeout_ms = 500\nmax_workers = 8\n[rules]\ndisable = [\"a\"]\n" ++
    "[output]\nformat = \"json\"\n").toList

/-- What the settings file says. -/
def mixedFile : Datum :=
  .map [(.text "scan".toList, .map [(.text "timeout_ms".toList, .int 500),
      (.text "max_workers".toList, .int 8)]),
    (.text "rules".toList, .map [(.text "disable".toList, .list [.text ['a']])]),
    (.text "output".toList, .map [(.text "format".toList, .text "json".toList)])]

/-- One variable that makes no sense, one that does and one for which the command line asks for
something else. -/
theorem ScanArguments.settings_precedence_mixed :
    let env : Environment :=
      [("SECRETLENS_FORMAT", "sarif".toList), ("SECRETLENS_TIMEOUT_MS", "soon".toList),
       ("SECRETLENS_MAX_WORKERS", "3".toList), ("SECRETLENS_DISABLE_RULES", " b , ,c".toList)]
    let sur : Surroundings :=
      { env, files := .ofTree (.ofText "/w".toList)
          (.folder [(Settings.fileName, .file (Utf8.encode mixedText))]) }
    let args : ScanArguments :=
      ⟨["d".toList], none, none, none, [], false, none, some 0, false, false⟩
    Settings.Reads sur.files args.config mixedFile ∧ mixedFile.WellTyped
      ∧ ∃ s, args.settings sur = .ok s ∧ s.output.format = .sarif ∧ s.scan.timeout = .int 500
        ∧ s.scan.maxWorkers = .int 1
        ∧ s.rules.disable = .list [.text ['a'], .text ['b'], .text ['c']] := by
  intro env sur args
  have hfind : Settings.find sur.files args.config
      = .ok (some (sur.files.home.child Settings.fileName, Utf8.encode mixedText)) := by rfl
  have hdecode : Utf8.decode (Utf8.encode mixedText) = .ok mixedText := by decide +kernel
  have hread : Toml.read mixedText = .ok mixedFile := by
    unfold mixedText mixedFile
    -- spelled out in characters, the file can be read by evaluation
    simp only [String.reduceAppend, String.reduceToList]
    with_unfolding_all rfl
  have hreads : Settings.Reads sur.files args.config mixedFile := .file hfind hdecode hread
  have htyped : mixedFile.WellTyped := by decide
  rcases (settings_precedence hreads htyped).1 with ⟨name, hname, -⟩ | ⟨s, -, hs, heffect, -⟩
  · cases hname
  · refine ⟨hreads, htyped, s, hs, ?_, ?_, ?_, ?_⟩
    · rw [heffect.format]
      decide
    · exact (heffect.value schema[2] (List.getElem_mem _)).trans rfl
    · exact (heffect.value schema[3] (List.getElem_mem _)).trans rfl
    · exact (heffect.value schema[9] (List.getElem_mem _)).trans rfl

end SecretScan
