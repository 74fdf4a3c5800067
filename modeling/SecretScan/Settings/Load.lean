import SecretScan.File.Tree
import SecretScan.Log.Level
import SecretScan.Settings.Basic
import SecretScan.Datum.Spelling
import SecretScan.Toml.Document

/-!
# Loading settings

Settings start out as the usual ones. A settings file can change each of them by itself, and what it
says beyond that is ignored. Variables of the environment come last; one that makes no sense changes
nothing.
-/

namespace SecretScan

/-- Why there are no settings. -/
inductive SettingsError where
  /-- There is no file at the path that was asked for. -/
  | notFound (path : Text)
  /-- The path of the file cannot be looked at. -/
  | barred (e : AccessError)
  /-- The file is not in UTF-8. -/
  | encoding (e : Utf8.DecodeError)
  /-- The file is not in TOML. -/
  | toml (path : Text)
  /-- A part of the settings is no table. -/
  | notTable (name : String)
  /-- A whole number has too many digits. If it is in the file in decimal notation, their number is
  known. -/
  | tooManyDigits (count : Option Nat)
  /-- The form of reports is unknown. -/
  | unknownFormat (spelled : Text)
  /-- Rules are to be switched off but those that are off make no list. -/
  | notList
deriving DecidableEq, Repr

/-- The error in words; `syntaxError` tells what is wrong with a file that is not in TOML. -/
def SettingsError.message (syntaxError : String) : SettingsError → String
  | notFound path => s!"Config file not found: {String.ofList path}"
  | barred e => e.message
  | encoding e => e.message
  | toml path => s!"Failed to parse {String.ofList path}: {syntaxError}"
  | notTable name => s!"[{name}] must be a table"
  | tooManyDigits count => Decimal.tooManyDigits count
  | unknownFormat spelled => s!"Unknown output format: {String.ofList spelled}"
  | notList => ""

/-- The table of the part `name`, which is empty if the file has none. -/
def section? (file : Datum) (name : String) : Except SettingsError Datum :=
  match file.get? name with
  | none => .ok (.map [])
  | some (.map entries) => .ok (.map entries)
  | some _ => .error (.notTable name)

/-- The value of a setting in its part of the file, or else the usual one. -/
def Datum.setting (part : Datum) (name : String) (usual : Datum) : Datum :=
  (part.get? name).getD usual

/-- Settings of how content is scanned. -/
def ScanSettings.ofTable (t : Datum) : ScanSettings :=
  let usual : ScanSettings := {}
  { checkRequirements := t.setting "check_requirements" usual.checkRequirements
    minEntropy := t.setting "min_entropy_override" usual.minEntropy
    timeout := t.setting "timeout_ms" usual.timeout
    maxWorkers := t.setting "max_workers" usual.maxWorkers
    keepIgnored := t.setting "keep_ignored" usual.keepIgnored }

/-- Settings of which rules are used. -/
def RuleSettings.ofTable (t : Datum) : RuleSettings :=
  let usual : RuleSettings := {}
  { builtin := t.setting "builtin" usual.builtin
    paths := t.setting "paths" usual.paths
    enable := t.setting "enable" usual.enable
    disable := t.setting "disable" usual.disable }

/-- The spelling of a setting. -/
def spelledSetting (value : Datum) : Except SettingsError Text :=
  match value.spell? with
  | some t => .ok t
  | none => .error (.tooManyDigits none)

/-- The form that a value names. -/
def formatOf (value : Datum) : Except SettingsError Format :=
  match value with
  | .text name =>
    match Format.ofName? name with
    | some format => .ok format
    | none => .error (.unknownFormat name)
  | other => do throw (.unknownFormat (← spelledSetting other))

/-- The settings that a file holds. The form of reports is looked at last. -/
def Settings.ofDatum (file : Datum) : Except SettingsError Settings := do
  let usual : Settings := {}
  let version ← spelledSetting (file.setting "version" (.text usual.version))
  let scan ← section? file "scan"
  let scoring ← section? file "scoring"
  let rules ← section? file "rules"
  let output ← section? file "output"
  let log ← section? file "logging"
  let format ← formatOf (output.setting "format" (.text usual.output.format.name.toList))
  return {
    version
    scan := .ofTable scan
    scoring := ⟨scoring.setting "min_confidence" usual.scoring.minScore⟩
    rules := .ofTable rules
    output := ⟨format, output.setting "show_summary" usual.output.showSummary,
      output.setting "redact" usual.output.redact⟩
    log := ⟨log.setting "level" usual.log.level, log.setting "json" usual.log.json⟩ }

/-- The variables of the environment. -/
abbrev Environment := List (String × Text)

/-- The value of a variable, if it is set and not empty. -/
def Environment.get? (env : Environment) (name : String) : Option Text :=
  match env.lookup name with
  | some [] => none
  | value => value

/-- The names of the levels of what is told. -/
def levelNames : List Text :=
  ["DEBUG", "INFO", "WARNING", "ERROR", "CRITICAL"].map String.toList

/-- The level that a text names, in any case. -/
def levelOf? (t : Text) : Option Text :=
  let name := capitals t
  if levelNames.contains name then some name else none

/-- The names in a list with commas, without blanks around them and without empty ones. -/
def commaNames (t : Text) : List Text :=
  ((Text.splitOn ',' t).map Text.trim).filter fun name => !name.isEmpty

namespace Settings

/-- The form of reports as the environment says it. -/
def withFormat (s : Settings) (env : Environment) : Settings :=
  match (env.get? "SECRETLENS_FORMAT").bind Format.ofName? with
  | some format => { s with output := { s.output with format } }
  | none => s

/-- The level of what is told as the environment says it. -/
def withLevel (s : Settings) (env : Environment) : Settings :=
  match (env.get? "SECRETLENS_LOG_LEVEL").bind levelOf? with
  | some level => { s with log := { s.log with level := .text level } }
  | none => s

/-- The time for a rule and an item as the environment says it. -/
def withTimeout (s : Settings) (env : Environment) : Settings :=
  match (env.get? "SECRETLENS_TIMEOUT_MS").bind Decimal.readInt? with
  | some n => { s with scan := { s.scan with timeout := .int n } }
  | none => s

/-- How many items are scanned at the same time as the environment says it; at least one is. -/
def withWorkers (s : Settings) (env : Environment) : Settings :=
  match (env.get? "SECRETLENS_MAX_WORKERS").bind Decimal.readInt? with
  | some n => { s with scan := { s.scan with maxWorkers := .int (max 1 n) } }
  | none => s

/-- The least entropy as the environment says it. -/
def withEntropy (s : Settings) (env : Environment) : Settings :=
  match (env.get? "SECRETLENS_MIN_ENTROPY").bind Decimal.readFloat? with
  | some x => { s with scan := { s.scan with minEntropy := .float x } }
  | none => s

/-- Further rules that are off as the environment says it. -/
def withDisabled (s : Settings) (env : Environment) : Except SettingsError Settings :=
  match env.get? "SECRETLENS_DISABLE_RULES", s.rules.disable with
  | none, _ => .ok s
  | some names, .list off =>
    let disable := .list (off ++ (commaNames names).map .text)
    .ok { s with rules := { s.rules with disable } }
  | some _, _ => .error .notList

/-- The settings with what the environment says. -/
def override (s : Settings) (env : Environment) : Except SettingsError Settings :=
  ((((s.withFormat env).withLevel env).withTimeout env).withWorkers env).withEntropy env
    |>.withDisabled env

/-- The name of the settings file. -/
def fileName : Text := ".secretlens.toml".toList

/-- The settings in a file. -/
def ofFile (path : Path) (content : Bytes) : Except SettingsError Settings :=
  match Utf8.decode content with
  | .error e => .error (.encoding e)
  | .ok t =>
    match Toml.read t with
    | .error .malformed => .error (.toml path.toText)
    | .error (.tooManyDigits count) => .error (.tooManyDigits (some count))
    | .ok file => Settings.ofDatum file

/-- The content of the file at a path, if there is one. -/
def lookUp (fs : Files) (path : Path) : Except SettingsError (Option Bytes) :=
  match fs.bar? path with
  | some e => .error (.barred e)
  | none => .ok (fs.file? path)

/-- The settings file with its content, if there is one. A file that is asked for has to be there;
otherwise the one in the home folder counts. -/
def find (fs : Files) (asked : Option Text) : Except SettingsError (Option (Path × Bytes)) :=
  match asked with
  | some (c :: cs) => do
    let path := Path.ofText (c :: cs)
    match ← lookUp fs path with
    | some content => return some (path, content)
    | none => throw (.notFound (c :: cs))
  | _ => do
    let path := fs.home.child fileName
    return (← lookUp fs path).map fun content => (path, content)

/-- The settings of a run. -/
def load (fs : Files) (asked : Option Text) (env : Environment) : Except SettingsError Settings := do
  let settings ← match ← find fs asked with
    | some (path, content) => ofFile path content
    | none => pure {}
  settings.override env

end Settings

end SecretScan
