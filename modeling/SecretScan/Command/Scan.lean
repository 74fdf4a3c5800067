import SecretScan.Command.Setup
import SecretScan.Report.Sarif
import SecretScan.Report.Terminal
import SecretScan.Scan.Collect
import SecretScan.Settings.Use

/-!
# Scanning files

A scan collects the files below its paths, applies the rules to them and reports what they find. A
report for programs is printed for programs, one for people is not. A report that is written to a
file is always one for programs.
-/

namespace SecretScan

/-- All that a scan needs. -/
structure ScanJob where
  /-- The settings. -/
  settings : Settings
  /-- What is told on the way. -/
  filter : LogFilter
  /-- The compiled rules. -/
  rules : RuleSet
  /-- The items. -/
  items : List Item
  /-- The files that are not taken for text. -/
  skipped : List Path

/-- An item whose scores cannot be compared with a bound: it fails as soon as one would have to
be. -/
def unscorable (item : Item) (run : ItemRun) : Except UnitFailure ItemOutcome :=
  let t := triage item.content item.location 0 (run.units.flatMap UnitResult.found)
  if t.candidates.isEmpty then
    .ok ⟨[], t.suppressed, unitFailures item.location run.units, run.complete⟩
  else .error ⟨"*", item.location, .error "TypeError"⟩

/-- The result of a batch in which no score can be compared with the bound. -/
def scanUnscorable (options : Options) (rules : List CompiledRule) (items : List Item) :
    BatchResult :=
  let runs := (runItems options rules .silent items).1
  let tried := runs.map fun (item, run) => unscorable item run
  let outcomes := tried.filterMap Except.toOption
  let lost := tried.filterMap fun outcome =>
    match outcome with
    | .ok _ => none
    | .error failure => some failure
  { BatchResult.empty with
    suppressed := outcomes.flatMap ItemOutcome.suppressed
    failures := lost ++ outcomes.flatMap ItemOutcome.failures
    itemsScanned := (outcomes.filter ItemOutcome.complete).length }

/-- The result of a scan and what is told about it, or why there is none. -/
abbrev ScanResult := Except Refusal (BatchResult × List Event)

/-- The result of a scan. -/
def ScanJob.result (job : ScanJob) : ScanResult := do
  let options ← job.settings.scan.options.mapError .timeout
  if !job.settings.scan.hasWorkers then throw .workers
  let rules := job.rules.rules.entries
  match job.settings.scoring.bound? with
  | none => return (scanUnscorable options rules job.items, [])
  | some minScore =>
    let (result, events) := scanBatch ⟨options, minScore, .silent⟩ rules job.items
    return (← result.mapError .location, events)

/-- Remarks for those who follow along. -/
def Surroundings.remark (s : Surroundings) (t : String) : Console.Shown :=
  s.line s!"[dim]{t}[/dim]"

/-- What is said before a scan. -/
def ScanJob.remarks (job : ScanJob) (s : Surroundings) : List Console.Shown :=
  [s.remark (s!"Rules compiled: {job.rules.rules.entries.length} " ++
    s!"({job.rules.failures.length} failed)"),
   s.remark (s!"Files to scan: {job.items.length} " ++
    s!"({job.skipped.length} binary skipped)")]

/-- The report for programs in a form, if that form is for programs. -/
def BatchResult.document? (r : BatchResult) (format : Format) (redacted : Bool) : Option String :=
  match format with
  | .terminal => none
  | .json => some (r.toJson redacted).pretty
  | .sarif => some r.toSarif.pretty

/-- The exit code of a scan: 1 if something was found. -/
def BatchResult.exitCode (r : BatchResult) : Nat :=
  if r.findings.isEmpty then 0 else 1

/-- Writes a report to a file. -/
def ScanArguments.save (args : ScanArguments) (s : Surroundings) (document : String)
    (next : Outcome → Outcome) (o : Outcome) : Outcome :=
  match args.output with
  | none | some [] => next o
  | some output =>
    let path := Path.ofText output
    match s.files.objection? path with
    | some e => o.halted (.write e)
    | none =>
      let o := { o with written := some (path, document.toList) }
      if args.verbose then
        o.say [s.remark s!"Report written to {String.ofList output}"] next
      else next o

/-- Reports a result. -/
def ScanJob.report (job : ScanJob) (args : ScanArguments) (s : Surroundings) (r : BatchResult)
    (o : Outcome) : Outcome :=
  let output := job.settings.output
  let redacted := output.redact.isGiven
  let shown := (if args.debug then
      [s.remark s!"Scan duration: {Decimal.fixed r.duration 0}ms"] else [])
    ++ if output.format = .terminal then
        r.shown s.screen redacted output.showSummary.isGiven s.console
      else []
  o.say shown fun o =>
    let document := r.document? output.format redacted
    let o := match document with
      | some t => { o with out := o.out ++ t.toList ++ ['\n'] }
      | none => o
    args.save s (document.getD (r.toJson redacted).pretty) (.done r.exitCode) o

/-- Prepares a scan. -/
def ScanArguments.job (args : ScanArguments) (s : Surroundings) :
    List Text × Except Refusal ScanJob :=
  match (do
    let settings ← args.settings s
    return (settings, ← args.told? settings) : Except Refusal (Settings × LogFilter)) with
  | .error r => ([], .error r)
  | .ok (settings, filter) =>
    let (events, rules) := ruleSetFor s settings args.rules
    let paths := args.paths.map Path.ofText
    let (items, skipped) := collect s.files paths
    (filter.lines (events.map Event.entry), do
      let rules ← rules
      if let some e := collectBar? s.files paths then throw (.collecting e)
      return { settings, filter, rules, items, skipped })

/-- A result with the time that it took, in milliseconds. -/
def ScanResult.after (result : ScanResult) (duration : Float) : ScanResult :=
  result.map fun (r, events) => ({ r with duration }, events)

/-- What a scan comes to once its result is known. -/
def ScanJob.finish (job : ScanJob) (args : ScanArguments) (s : Surroundings) (result : ScanResult)
    (o : Outcome) : Outcome :=
  let remarks := if args.verbose || args.debug then job.remarks s else []
  o.say remarks fun o =>
    match result with
    | .error r => o.refuse s r
    | .ok (result, events) =>
      job.report args s result
        { o with told := o.told ++ job.filter.lines (events.map Event.entry) }

/-- Scans files. -/
def ScanArguments.run (args : ScanArguments) (s : Surroundings) : Outcome :=
  let (told, job) := args.job s
  match job with
  | .error r => Outcome.refuse s { told } r
  | .ok job => job.finish args s job.result { told }

end SecretScan
