import SecretScan.Proofs.Failure
import SecretScan.Settings.Load

/-!
# When there are no settings

What a settings file holds is checked part by part, and the first check that fails tells why there
are no settings (`settingsChecks`, `ofDatum_eq_error`). Together with what comes before, finding and
reading the file, and what comes after, the environment, this is all that can go wrong
(`Settings.load_eq_error`).
-/

namespace SecretScan

/-! ## What a file holds -/

/-- The version of the settings cannot be spelled. -/
inductive VersionFails (file : Datum) : SettingsError → Prop where
  | tooManyDigits :
      (file.setting "version" (.text ({} : Settings).version)).spell? = none →
      VersionFails file (.tooManyDigits none)

/-- A part of the settings is no table. -/
inductive SectionFails (file : Datum) (name : String) : SettingsError → Prop where
  | notTable {value : Datum} : file.get? name = some value → (∀ entries, value ≠ .map entries) →
      SectionFails file name (.notTable name)

/-- A value names no form of reports. -/
inductive NoFormat (value : Datum) : SettingsError → Prop where
  /-- It is another text. -/
  | unknown {name : Text} : value = .text name → Format.ofName? name = none →
      NoFormat value (.unknownFormat name)
  /-- It is no text. -/
  | notText {spelled : Text} : (∀ name, value ≠ .text name) → value.spell? = some spelled →
      NoFormat value (.unknownFormat spelled)
  /-- It is no text, and cannot be spelled. -/
  | tooManyDigits : (∀ name, value ≠ .text name) → value.spell? = none →
      NoFormat value (.tooManyDigits none)

/-- The form of reports in the settings is none. -/
inductive FormatFails (file : Datum) : SettingsError → Prop where
  | noFormat {output : Datum} {e : SettingsError} : section? file "output" = .ok output →
      NoFormat (output.setting "format" (.text ({} : Settings).output.format.name.toList)) e →
      FormatFails file e

variable {file value : Datum} {e : SettingsError}

theorem spelledSetting_eq_error :
    spelledSetting value = .error e ↔ value.spell? = none ∧ .tooManyDigits none = e := by
  unfold spelledSetting
  split
  · next h => simp [h]
  · next h => simp [h]

theorem spelledSetting_eq_ok {t : Text} :
    spelledSetting value = .ok t ↔ value.spell? = some t := by
  unfold spelledSetting
  split
  · next h => simp [h]
  · next h => simp [h]

theorem version_eq_error :
    spelledSetting (file.setting "version" (.text ({} : Settings).version)) = .error e ↔
      VersionFails file e := by
  rw [spelledSetting_eq_error]
  constructor
  · rintro ⟨h, rfl⟩
    exact .tooManyDigits h
  · rintro ⟨h⟩
    exact ⟨h, rfl⟩

theorem section?_eq_error {name : String} : section? file name = .error e ↔
    SectionFails file name e := by
  unfold section?
  constructor
  · intro h
    split at h
    · cases h
    · cases h
    · next value hmap hvalue =>
        cases h
        exact .notTable hvalue hmap
  · rintro ⟨hvalue, hmap⟩
    split
    · next h => exact nomatch hvalue.symm.trans h
    · next entries h => exact absurd (Option.some.inj (hvalue.symm.trans h)) (hmap entries)
    · rfl

theorem formatOf_eq_error : formatOf value = .error e ↔ NoFormat value e := by
  unfold formatOf
  split
  · next name =>
      split
      · next format hformat =>
          refine ⟨nofun, ?_⟩
          rintro (⟨h, hnone⟩ | ⟨hne, -⟩ | ⟨hne, -⟩)
          · cases h
            rw [hformat] at hnone
            cases hnone
          · exact absurd rfl (hne name)
          · exact absurd rfl (hne name)
      · next hnone =>
          constructor
          · intro h
            cases h
            exact .unknown rfl hnone
          · rintro (⟨h, -⟩ | ⟨hne, -⟩ | ⟨hne, -⟩)
            · cases h
              rfl
            · exact absurd rfl (hne name)
            · exact absurd rfl (hne name)
  · next hne =>
      rw [bind_eq_error]
      simp only [spelledSetting_eq_error, spelledSetting_eq_ok]
      constructor
      · rintro (⟨hspell, rfl⟩ | ⟨t, hspell, h⟩)
        · exact .tooManyDigits hne hspell
        · cases h
          exact .notText hne hspell
      · rintro (⟨h, -⟩ | ⟨-, hspell⟩ | ⟨-, hspell⟩)
        · exact absurd h (hne _)
        · exact .inr ⟨_, hspell, rfl⟩
        · exact .inl ⟨hspell, rfl⟩

/-- What is checked in a settings file, in this order. -/
def settingsChecks (file : Datum) : List (SettingsError → Prop) :=
  [VersionFails file, SectionFails file "scan", SectionFails file "scoring",
   SectionFails file "rules", SectionFails file "output", SectionFails file "logging",
   FormatFails file]

/-- **A file holds no settings if one of the checks fails, and then for the first that does.** -/
theorem ofDatum_eq_error :
    Settings.ofDatum file = .error e ↔ FirstFails id (settingsChecks file) e := by
  unfold Settings.ofDatum settingsChecks
  dsimp only
  refine FirstFails.bind_iff (fun _ => version_eq_error) fun version _ => ?_
  refine FirstFails.bind_iff (fun _ => section?_eq_error) fun scan _ => ?_
  refine FirstFails.bind_iff (fun _ => section?_eq_error) fun scoring _ => ?_
  refine FirstFails.bind_iff (fun _ => section?_eq_error) fun rules _ => ?_
  refine FirstFails.bind_iff (fun _ => section?_eq_error) fun output houtput => ?_
  refine FirstFails.bind_iff (fun _ => section?_eq_error) fun log _ => ?_
  refine FirstFails.bind_iff (fun e => ?_) fun format _ => ?_
  · rw [formatOf_eq_error]
    constructor
    · exact .noFormat houtput
    · rintro ⟨h, hnone⟩
      obtain rfl := Except.ok.inj (houtput.symm.trans h)
      exact hnone
  · exact ⟨nofun, fun h => absurd h FirstFails.not_nil⟩

/-! ## Files and the environment -/

/-- How a settings file fails. -/
inductive SettingsFileFails (path : Path) (content : Bytes) : SettingsError → Prop where
  /-- It is not in UTF-8. -/
  | encoding {e : Utf8.DecodeError} : Utf8.decode content = .error e →
      SettingsFileFails path content (.encoding e)
  /-- It is not in TOML. -/
  | malformed {t : Text} : Utf8.decode content = .ok t → Toml.read t = .error .malformed →
      SettingsFileFails path content (.toml path.toText)
  /-- A whole number in it has too many digits. -/
  | tooManyDigits {t : Text} {count : Nat} : Utf8.decode content = .ok t →
      Toml.read t = .error (.tooManyDigits count) →
      SettingsFileFails path content (.tooManyDigits (some count))
  /-- It holds no settings. -/
  | invalid {t : Text} {file : Datum} {e : SettingsError} : Utf8.decode content = .ok t →
      Toml.read t = .ok file → FirstFails id (settingsChecks file) e →
      SettingsFileFails path content e

namespace Settings

theorem ofFile_eq_error {path : Path} {content : Bytes} {e : SettingsError} :
    ofFile path content = .error e ↔ SettingsFileFails path content e := by
  unfold ofFile
  constructor
  · intro h
    split at h
    · next hdecode =>
        cases h
        exact .encoding hdecode
    next t hdecode =>
    split at h
    · next hread =>
        cases h
        exact .malformed hdecode hread
    · next hread =>
        cases h
        exact .tooManyDigits hdecode hread
    · next hread => exact .invalid hdecode hread (ofDatum_eq_error.mp h)
  · rintro (hdecode | ⟨hdecode, hread⟩ | ⟨hdecode, hread⟩ | ⟨hdecode, hread, hfirst⟩)
    · rw [hdecode]
    · rw [hdecode]
      dsimp only
      rw [hread]
    · rw [hdecode]
      dsimp only
      rw [hread]
    · rw [hdecode]
      dsimp only
      rw [hread]
      exact ofDatum_eq_error.mpr hfirst

/-- The settings before the environment says anything: those of the file, or else the usual ones. -/
inductive Written (fs : Files) (asked : Option Text) : Settings → Prop where
  /-- There is no file. -/
  | usual : find fs asked = .ok none → Written fs asked {}
  /-- There is one. -/
  | file {path : Path} {content : Bytes} {s : Settings} :
      find fs asked = .ok (some (path, content)) → ofFile path content = .ok s →
      Written fs asked s

/-- The environment switches rules off but the settings have no list of those that are off. -/
def EnvironmentFails (s : Settings) (env : Environment) : Prop :=
  env.get? "SECRETLENS_DISABLE_RULES" ≠ none ∧ ∀ off, s.rules.disable ≠ .list off

theorem withDisabled_eq_error {s : Settings} {env : Environment} {e : SettingsError} :
    s.withDisabled env = .error e ↔ s.EnvironmentFails env ∧ .notList = e := by
  unfold withDisabled EnvironmentFails
  split
  · next h => simp [h]
  · next h => simp [h]
  · next henv hlist =>
      have hset : env.get? "SECRETLENS_DISABLE_RULES" ≠ none := by
        rw [henv]
        exact Option.some_ne_none _
      rw [Except.error.injEq]
      exact ⟨fun h => ⟨⟨hset, hlist⟩, h⟩, And.right⟩

theorem override_eq_error {s : Settings} {env : Environment} {e : SettingsError} :
    s.override env = .error e ↔ s.EnvironmentFails env ∧ .notList = e := by
  -- whatever else the environment says, it says nothing about rules
  have hrules : (((((s.withFormat env).withLevel env).withTimeout env).withWorkers env).withEntropy
      env).rules = s.rules := by
    unfold withEntropy withWorkers withTimeout withLevel withFormat
    repeat' split
    all_goals rfl
  unfold override
  rw [withDisabled_eq_error, EnvironmentFails, EnvironmentFails, hrules]

end Settings

/-- Where the settings file is looked for. -/
def Settings.place (fs : Files) : Option Text → Path
  | some (c :: cs) => .ofText (c :: cs)
  | _ => fs.home.child fileName

/-- Why a run has no settings. -/
inductive SettingsFail (fs : Files) (asked : Option Text) (env : Environment) :
    SettingsError → Prop where
  /-- The path of the file cannot be looked at. -/
  | barred {e : AccessError} : fs.bar? (Settings.place fs asked) = some e →
      SettingsFail fs asked env (.barred e)
  /-- The file that was asked for is not there. -/
  | notFound {path : Text} : asked = some path → path ≠ [] → fs.bar? (.ofText path) = none →
      fs.file? (.ofText path) = none → SettingsFail fs asked env (.notFound path)
  /-- The file fails. -/
  | file {path : Path} {content : Bytes} {e : SettingsError} :
      Settings.find fs asked = .ok (some (path, content)) → SettingsFileFails path content e →
      SettingsFail fs asked env e
  /-- The environment switches rules off but the settings have no list of those that are off. -/
  | environment {s : Settings} : Settings.Written fs asked s → s.EnvironmentFails env →
      SettingsFail fs asked env .notList

namespace Settings

variable {fs : Files} {path : Path} {asked : Option Text}

theorem lookUp_eq_error : lookUp fs path = .error e ↔ ∃ b, fs.bar? path = some b ∧ .barred b = e := by
  unfold lookUp
  split
  · next h => simp [h]
  · next h => simp [h]

theorem lookUp_eq_ok {o : Option Bytes} :
    lookUp fs path = .ok o ↔ fs.bar? path = none ∧ fs.file? path = o := by
  unfold lookUp
  split
  · next h => simp [h]
  · next h => simp [h]

theorem find_eq_error : find fs asked = .error e ↔
    (∃ b, fs.bar? (place fs asked) = some b ∧ .barred b = e)
      ∨ ∃ path, asked = some path ∧ path ≠ [] ∧ fs.bar? (.ofText path) = none
          ∧ fs.file? (.ofText path) = none ∧ .notFound path = e := by
  unfold find
  split
  · next c cs =>
      rw [bind_eq_error, lookUp_eq_error]
      refine or_congr .rfl ⟨?_, ?_⟩
      · rintro ⟨o, hlook, h⟩
        obtain ⟨hbar, rfl⟩ := lookUp_eq_ok.mp hlook
        split at h
        · cases h
        · next hnone =>
            cases h
            exact ⟨c :: cs, rfl, List.cons_ne_nil c cs, hbar, hnone, rfl⟩
      · rintro ⟨path, hpath, -, hbar, hnone, rfl⟩
        obtain rfl := Option.some.inj hpath
        exact ⟨none, lookUp_eq_ok.mpr ⟨hbar, hnone⟩, rfl⟩
  · next hasked =>
      have hplace : place fs asked = fs.home.child fileName := by
        unfold place
        split
        · exact absurd rfl (hasked _ _)
        · rfl
      rw [bind_eq_error, lookUp_eq_error, hplace]
      refine or_congr .rfl ⟨?_, ?_⟩
      · rintro ⟨o, -, h⟩
        cases h
      · rintro ⟨path, rfl, hne, -⟩
        obtain ⟨c, cs, rfl⟩ := List.exists_cons_of_ne_nil hne
        exact absurd rfl (hasked c cs)

end Settings

/-- **There are no settings for one of these reasons and for no other.** -/
theorem Settings.load_eq_error {fs : Files} {asked : Option Text} {env : Environment}
    {e : SettingsError} : load fs asked env = .error e ↔ SettingsFail fs asked env e := by
  unfold load
  rw [bind_eq_error, find_eq_error]
  constructor
  · rintro ((⟨b, hbar, rfl⟩ | ⟨path, hasked, hne, hbar, hnone, rfl⟩) | ⟨found, hfind, h⟩)
    · exact .barred hbar
    · exact .notFound hasked hne hbar hnone
    cases found with
    | none =>
        obtain ⟨henv, rfl⟩ := override_eq_error.mp h
        exact .environment (.usual hfind) henv
    | some found =>
        rcases bind_eq_error.mp h with h | ⟨s, hs, h⟩
        · exact .file hfind (ofFile_eq_error.mp h)
        · obtain ⟨henv, rfl⟩ := override_eq_error.mp h
          exact .environment (.file hfind hs) henv
  · rintro (hbar | ⟨hasked, hne, hbar, hnone⟩ | ⟨hfind, hfile⟩ | ⟨hwritten, henv⟩)
    · exact .inl (.inl ⟨_, hbar, rfl⟩)
    · exact .inl (.inr ⟨_, hasked, hne, hbar, hnone, rfl⟩)
    · exact .inr ⟨_, hfind, bind_eq_error.mpr (.inl (ofFile_eq_error.mpr hfile))⟩
    · have hoverride := override_eq_error.mpr ⟨henv, rfl⟩
      cases hwritten with
      | usual hfind => exact .inr ⟨_, hfind, hoverride⟩
      | file hfind hs => exact .inr ⟨_, hfind, bind_eq_error.mpr (.inr ⟨_, hs, hoverride⟩)⟩

end SecretScan
