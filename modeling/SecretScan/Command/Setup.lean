import SecretScan.Command.Basic
import SecretScan.Command.Outcome

/-!
# What commands start from

The settings of a run are those of its settings file, then what the environment says, then what the
command line says. The rules are those that the settings ask for, together with those of the files
on the command line.
-/

namespace SecretScan

/-- The settings without the built-in rules, if they are to be left out. -/
def Settings.withBuiltin (s : Settings) (without : Bool) : Settings :=
  if without then { s with rules := { s.rules with builtin := .bool false } } else s

/-- The settings with the form of reports that the command line names, if it names one. -/
def Settings.withNamedFormat (s : Settings) (name : Option Text) : Except Refusal Settings :=
  match name with
  | none | some [] => .ok s
  | some name =>
    match Format.ofName? name with
    | some format => .ok { s with output := { s.output with format } }
    | none => .error (.format name)

/-- The settings with what the command line says. -/
def ScanArguments.override (args : ScanArguments) (s : Settings) : Except Refusal Settings := do
  let s ← s.withNamedFormat args.format
  let s := s.withBuiltin args.withoutBuiltin
  let s := match args.minScore with
    | some n => { s with scoring := ⟨.int n⟩ }
    | none => s
  return match args.workers with
    | some n => { s with scan := { s.scan with maxWorkers := .int (max 1 n) } }
    | none => s

/-- The settings of a scan. -/
def ScanArguments.settings (args : ScanArguments) (s : Surroundings) : Except Refusal Settings := do
  args.override (← (Settings.load s.files args.config s.env).mapError .settings)

/-- The settings of a look at the rules. -/
def RulesArguments.settings (args : RulesArguments) (s : Surroundings) :
    Except Refusal Settings := do
  let settings ← (Settings.load s.files args.config s.env).mapError .settings
  return settings.withBuiltin args.withoutBuiltin

/-- What is told according to settings. -/
def LogSettings.told? (s : LogSettings) : Except Refusal LogFilter :=
  match s.level with
  | .text name =>
    match Level.other? name with
    | none => .ok (.ofName name s.json.isGiven)
    | some said => .error (.otherLevel said)
  | _ => .error .level

/-- What is told on the way of a scan. -/
def ScanArguments.told? (args : ScanArguments) (s : Settings) : Except Refusal LogFilter :=
  if args.debug then .ok ⟨.debug, s.log.json.isGiven⟩
  else if args.verbose then .ok ⟨.info, s.log.json.isGiven⟩
  else s.log.told?

/-- The compiled rules for settings, with rules at further paths. -/
def ruleSetFor (s : Surroundings) (settings : Settings) (further : List Path) :
    List Event × Except Refusal RuleSet :=
  let (events, registry) := Registry.build s.files settings.rules further s.reader
  match registry with
  | .error e => (events, .error (.rules e))
  | .ok registry =>
    let (set, _, more) := RuleCache.empty.get registry s.engine
    (events ++ more, .ok set)

end SecretScan
