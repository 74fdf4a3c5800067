import SecretScan.Proofs.Settings.Loading

/-!
# The types of settings

Each setting is declared with a type (`schema`), but nobody looks at the types of the values in a
settings file: settings hold what their file says, whatever it is (`Settings.takenFrom_ofDatum`).
What the environment says takes no setting its type (`Settings.overrides_override`).
-/

namespace SecretScan

/-! ## The schema -/

/-- The types that settings are declared with. -/
inductive SettingType where
  /-- A truth value. -/
  | flag
  /-- A whole number. -/
  | whole
  /-- A number, or none. -/
  | optionalNumber
  /-- A list of texts. -/
  | texts
  /-- A text. -/
  | text
deriving DecidableEq, Repr

namespace SettingType

/-- Whether a value has the type. -/
def holds : SettingType → Datum → Bool
  | flag, .bool _ => true
  | whole, .int _ => true
  | optionalNumber, .null | optionalNumber, .int _ | optionalNumber, .float _ => true
  | texts, .list items => items.all fun | .text _ => true | _ => false
  | text, .text _ => true
  | _, _ => false

end SettingType

/-- A setting that may hold any value. -/
structure Setting where
  /-- The part of the file that it is in. -/
  part : String
  /-- Its key there. -/
  name : String
  /-- The type that it is declared with. -/
  type : SettingType
  /-- The variable of the environment that changes it. -/
  source : Option String := none
  /-- Its value in all settings. -/
  value : Settings → Datum

/-- The settings with the types that they are declared with. The version, which is a text, and the
form of reports cannot hold anything else. -/
def schema : List Setting :=
  [{ part := "scan", name := "check_requirements", type := .flag,
     value := fun s => s.scan.checkRequirements },
   { part := "scan", name := "min_entropy_override", type := .optionalNumber,
     source := some "SECRETLENS_MIN_ENTROPY", value := fun s => s.scan.minEntropy },
   { part := "scan", name := "timeout_ms", type := .whole,
     source := some "SECRETLENS_TIMEOUT_MS", value := fun s => s.scan.timeout },
   { part := "scan", name := "max_workers", type := .whole,
     source := some "SECRETLENS_MAX_WORKERS", value := fun s => s.scan.maxWorkers },
   { part := "scan", name := "keep_ignored", type := .flag,
     value := fun s => s.scan.keepIgnored },
   { part := "scoring", name := "min_confidence", type := .whole,
     value := fun s => s.scoring.minScore },
   { part := "rules", name := "builtin", type := .flag, value := fun s => s.rules.builtin },
   { part := "rules", name := "paths", type := .texts, value := fun s => s.rules.paths },
   { part := "rules", name := "enable", type := .texts, value := fun s => s.rules.enable },
   { part := "rules", name := "disable", type := .texts,
     source := some "SECRETLENS_DISABLE_RULES", value := fun s => s.rules.disable },
   { part := "output", name := "show_summary", type := .flag,
     value := fun s => s.output.showSummary },
   { part := "output", name := "redact", type := .flag, value := fun s => s.output.redact },
   { part := "logging", name := "level", type := .text,
     source := some "SECRETLENS_LOG_LEVEL", value := fun s => s.log.level },
   { part := "logging", name := "json", type := .flag, value := fun s => s.log.json }]

namespace Setting

/-- The value that a file gives a setting. -/
def inFile? (f : Setting) (file : Datum) : Option Datum :=
  (file.get? f.part).bind (·.get? f.name)

/-- The value of a setting that the environment does not change: that of the file, or else the usual
one. -/
def written (f : Setting) (file : Datum) : Datum :=
  (f.inFile? file).getD (f.value {})

/-- Whether the variable that changes a setting is set. -/
def isSet (f : Setting) (env : Environment) : Bool :=
  (f.source.bind env.get?).isSome

end Setting

variable {file : Datum} {s s' s'' : Settings} {f : Setting} {env : Environment} {name : String}

/-- The usual settings have the types that they are declared with. -/
theorem usual_holds (hf : f ∈ schema) : f.type.holds (f.value {}) = true := by
  have hall : ∀ f ∈ schema, f.type.holds (f.value {}) = true := by
    simp [schema, SettingType.holds]
  exact hall f hf

theorem written_holds (hf : f ∈ schema)
    (h : ∀ value, f.inFile? file = some value → f.type.holds value = true) :
    f.type.holds (f.written file) = true := by
  unfold Setting.written
  cases hvalue : f.inFile? file with
  | none => exact usual_holds hf
  | some value => exact h value hvalue

/-! ## The values of the file -/

theorem get?_of_section {table : Datum} (h : section? file name = .ok table) (key : String) :
    table.get? key = (file.get? name).bind (·.get? key) := by
  unfold section? at h
  split at h
  · next hnone =>
      cases h
      rw [hnone]
      rfl
  · next entries hentries =>
      cases h
      rw [hentries]
      rfl
  · cases h

theorem formatOf_eq_ok {value : Datum} {format : Format} (h : formatOf value = .ok format) :
    value = .text format.name.toList := by
  unfold formatOf at h
  split at h
  · next name =>
      split at h
      · next found hfound =>
          cases h
          have hname : format.name.toList = name := by simpa using List.find?_some hfound
          rw [hname]
      · cases h
  · obtain ⟨spelled, -, h⟩ := bind_eq_ok.mp h
    cases h

namespace Settings

/-- Settings hold what their file says, or else what is usual. Only for the version and the form of
reports it matters what that is. -/
structure TakenFrom (s : Settings) (file : Datum) : Prop where
  version : (file.setting "version" (.text ({} : Settings).version)).spell? = some s.version
  format : ((file.get? "output").bind (·.get? "format")).getD
    (.text ({} : Settings).output.format.name.toList) = .text s.output.format.name.toList
  value : ∀ f ∈ schema, f.value s = f.written file

/-- **What settings hold is taken from their file, whatever it is there.** -/
theorem takenFrom_ofDatum (h : ofDatum file = .ok s) : s.TakenFrom file := by
  have hin : ∀ {part : String} {table : Datum}, section? file part = .ok table →
      ∀ (key : String) (usual : Datum),
        table.setting key usual = ((file.get? part).bind (·.get? key)).getD usual := by
    intro part table hpart key usual
    rw [Datum.setting, get?_of_section hpart]
  obtain ⟨version, hversion, h⟩ := bind_eq_ok.mp h
  obtain ⟨scan, hscan, h⟩ := bind_eq_ok.mp h
  obtain ⟨scoring, hscoring, h⟩ := bind_eq_ok.mp h
  obtain ⟨rules, hrules, h⟩ := bind_eq_ok.mp h
  obtain ⟨output, houtput, h⟩ := bind_eq_ok.mp h
  obtain ⟨log, hlog, h⟩ := bind_eq_ok.mp h
  obtain ⟨format, hformat, h⟩ := bind_eq_ok.mp h
  cases h
  refine ⟨spelledSetting_eq_ok.mp hversion, ?_, ?_⟩
  · rw [← hin houtput]
    exact formatOf_eq_ok hformat
  · -- setting by setting, in the order of the schema
    simp only [schema, List.forall_mem_cons]
    exact ⟨hin hscan _ _, hin hscan _ _, hin hscan _ _, hin hscan _ _, hin hscan _ _,
      hin hscoring _ _, hin hrules _ _, hin hrules _ _, hin hrules _ _, hin hrules _ _,
      hin houtput _ _, hin houtput _ _, hin hlog _ _, hin hlog _ _, nofun⟩

end Settings

/-! ## The environment -/

namespace Settings

/-- What the environment may make of settings: a setting whose variable is not set stays as it is,
and none loses its type. -/
structure Overrides (env : Environment) (s s' : Settings) : Prop where
  version : s'.version = s.version
  format : env.get? "SECRETLENS_FORMAT" = none → s'.output.format = s.output.format
  unset : ∀ f ∈ schema, f.isSet env = false → f.value s' = f.value s
  typed : ∀ f ∈ schema, f.type.holds (f.value s) = true → f.type.holds (f.value s') = true

namespace Overrides

theorem refl : Overrides env s s where
  version := rfl
  format _ := rfl
  unset _ _ _ := rfl
  typed _ _ h := h

theorem trans (h : Overrides env s s') (h' : Overrides env s' s'') : Overrides env s s'' where
  version := h'.version.trans h.version
  format hunset := (h'.format hunset).trans (h.format hunset)
  unset f hf hunset := (h'.unset f hf hunset).trans (h.unset f hf hunset)
  typed f hf hs := h'.typed f hf (h.typed f hf hs)

end Overrides

theorem overrides_withFormat : Overrides env s (s.withFormat env) := by
  unfold withFormat
  split
  · next format h =>
      obtain ⟨t, ht, -⟩ := Option.bind_eq_some_iff.mp h
      constructor <;> simp [schema, ht]
  · exact .refl

theorem overrides_withLevel : Overrides env s (s.withLevel env) := by
  unfold withLevel
  split
  · next level h =>
      obtain ⟨t, ht, -⟩ := Option.bind_eq_some_iff.mp h
      constructor <;> simp [schema, Setting.isSet, SettingType.holds, ht]
  · exact .refl

theorem overrides_withTimeout : Overrides env s (s.withTimeout env) := by
  unfold withTimeout
  split
  · next n h =>
      obtain ⟨t, ht, -⟩ := Option.bind_eq_some_iff.mp h
      constructor <;> simp [schema, Setting.isSet, SettingType.holds, ht]
  · exact .refl

theorem overrides_withWorkers : Overrides env s (s.withWorkers env) := by
  unfold withWorkers
  split
  · next n h =>
      obtain ⟨t, ht, -⟩ := Option.bind_eq_some_iff.mp h
      constructor <;> simp [schema, Setting.isSet, SettingType.holds, ht]
  · exact .refl

theorem overrides_withEntropy : Overrides env s (s.withEntropy env) := by
  unfold withEntropy
  split
  · next x h =>
      obtain ⟨t, ht, -⟩ := Option.bind_eq_some_iff.mp h
      constructor <;> simp [schema, Setting.isSet, SettingType.holds, ht]
  · exact .refl

theorem overrides_withDisabled (h : s.withDisabled env = .ok s') : Overrides env s s' := by
  unfold withDisabled at h
  split at h
  · cases h
    exact .refl
  · next names off hnames hoff =>
      cases h
      constructor <;> simp [schema, Setting.isSet, SettingType.holds, hnames, hoff]
  · cases h

theorem overrides_override (h : s.override env = .ok s') : Overrides env s s' :=
  overrides_withFormat.trans <| overrides_withLevel.trans <| overrides_withTimeout.trans <|
    overrides_withWorkers.trans <| overrides_withEntropy.trans <| overrides_withDisabled h

end Settings

end SecretScan
