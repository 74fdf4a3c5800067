import SecretScan.Finding.Score

/-!
# Batches

A batch applies a rule set to many items, item by item and rule by rule. It can be told to stop: no
further unit is started then, and what has been found so far is still scored and reported. An item
counts as scanned only if no unit of it was left out. Findings are reported once over all items.

An item whose location is invalid fails as a whole once it has something to report. A batch whose
supply of items breaks off yields no result.
-/

namespace SecretScan

/-- Content with the place where it comes from. -/
structure Item where
  /-- The content. -/
  content : Text
  /-- Where it comes from. -/
  location : Text
deriving DecidableEq, Repr

/-- Whether and when a batch is told to stop. -/
inductive Signal where
  /-- It has been told. -/
  | raised
  /-- It will be told while the unit runs that comes after `units` more ones. -/
  | pending (units : Nat)
  /-- It is not told from outside. -/
  | silent
deriving DecidableEq, Repr

/-- The signal after one more unit, which may itself ask the batch to stop. -/
def Signal.next (cancels : Bool) : Signal → Signal
  | raised => raised
  | pending 0 => raised
  | pending (units + 1) => if cancels then raised else pending units
  | silent => if cancels then raised else silent

/-- A run of rules over one item. -/
structure ItemRun where
  /-- The units that were run. -/
  units : List UnitResult
  /-- Whether all rules were run. -/
  complete : Bool
  /-- The signal afterwards. -/
  signal : Signal

/-- The unit of a rule and an item. Empty content is not searched. -/
def unitOf (options : Options) (content : Text) (r : CompiledRule) : UnitResult :=
  if content.isEmpty then .idle r.id else r.apply options content

/-- Runs rules over one item until the signal is raised. -/
def runItem (options : Options) (content : Text) (signal : Signal) : List CompiledRule → ItemRun
  | [] => ⟨[], true, signal⟩
  | r :: rs =>
    if signal = .raised then ⟨[], false, signal⟩
    else
      let unit := unitOf options content r
      let rest := runItem options content (signal.next unit.cancels) rs
      { rest with units := unit :: rest.units }

/-- The failures among units. -/
def unitFailures (location : Text) (units : List UnitResult) : List UnitFailure :=
  units.filterMap fun u => u.failure.map fun fault => ⟨u.ruleId, location, fault⟩

/-- What an item contributes to a batch. -/
structure ItemOutcome where
  /-- The findings, without duplicates among themselves. -/
  findings : List Finding
  /-- The matches that are not reported. -/
  suppressed : List Suppression
  /-- The units that failed. -/
  failures : List UnitFailure
  /-- Whether all rules were run. -/
  complete : Bool

/-- Scores the run of an item. -/
def ItemRun.outcome (run : ItemRun) (item : Item) (minScore : Int) :
    Except LocationError ItemOutcome := do
  let found := run.units.flatMap UnitResult.found
  let scored ← score item.content item.location minScore [] found
  return ⟨scored.findings, scored.suppressed, unitFailures item.location run.units, run.complete⟩

/-- The kind of failure recorded for an item with an invalid location. -/
def invalidLocation : Fault :=
  .error "ValueError"

/-- What is told about the run of an item. -/
def ItemRun.events (run : ItemRun) (item : Item) (options : Options) (minScore : Int) :
    List Event :=
  run.units.flatMap (fun u => u.events options.timeout)
    ++ match run.outcome item minScore with
      | .ok _ => []
      | .error _ => [.itemFailed item.location invalidLocation.detail]

/-- The result of a batch. -/
structure BatchResult where
  /-- What is reported. -/
  findings : List Finding
  /-- What is not. -/
  suppressed : List Suppression
  /-- The items and units that failed. -/
  failures : List UnitFailure
  /-- How many items were scanned with all rules. -/
  itemsScanned : Int
  /-- Whether some unit was left out because the batch was told to stop. -/
  cancelled : Bool
  /-- How long it took, in milliseconds. -/
  duration : Float

namespace BatchResult

/-- The result of no work. -/
def empty : BatchResult :=
  { findings := [], suppressed := [], failures := [], itemsScanned := 0, cancelled := false,
    duration := 0 }

/-- The units that ran out of time. -/
def timeouts (r : BatchResult) : List UnitFailure :=
  r.failures.filter fun f => f.fault.kind = "timeout"

end BatchResult

/-- Joins what items contribute; a finding that an earlier item reported is a duplicate. -/
def mergeOutcomes (seen : List FindingKey) : List ItemOutcome → Except LocationError Scored
  | [] => .ok ⟨[], [], seen⟩
  | outcome :: outcomes => do
    let d ← deduplicate seen outcome.findings
    let rest ← mergeOutcomes d.seen outcomes
    let repeated := d.duplicates.map fun f => f.asDuplicate f.location
    return ⟨d.kept ++ rest.findings, outcome.suppressed ++ repeated ++ rest.suppressed, rest.seen⟩

/-- Runs the rules over items one after the other, handing the signal on. -/
def runItems (options : Options) (rules : List CompiledRule) (signal : Signal) :
    List Item → List (Item × ItemRun) × Signal
  | [] => ([], signal)
  | item :: items =>
    let run := runItem options item.content signal rules
    let (runs, signal) := runItems options rules run.signal items
    ((item, run) :: runs, signal)

/-- The settings of a batch. -/
structure BatchSettings where
  /-- How rules are applied. -/
  options : Options
  /-- The least score that is reported. -/
  minScore : Int
  /-- Whether and when the batch is told to stop. -/
  signal : Signal

/-- The usual settings. -/
def BatchSettings.default : BatchSettings :=
  ⟨.default, defaultMinScore, .silent⟩

/-- The result of a batch from the runs of its items, and what is told meanwhile. -/
def reportRuns (settings : BatchSettings) (runs : List (Item × ItemRun)) (signal : Signal) :
    Except LocationError BatchResult × List Event :=
  let tried := runs.map fun (item, run) => (item, run.outcome item settings.minScore)
  let outcomes := tried.filterMap fun (_, outcome) => outcome.toOption
  let lost : List UnitFailure := tried.filterMap fun (item, outcome) =>
    match outcome with
    | .ok _ => none
    | .error _ => some ⟨"*", item.location, invalidLocation⟩
  let events := runs.flatMap fun (item, run) =>
    run.events item settings.options settings.minScore
  let scanned := (outcomes.filter ItemOutcome.complete).length
  let cancelled := signal = .raised && outcomes.any fun o => !o.complete
  match mergeOutcomes [] outcomes with
  | .error e => (.error e, events)
  | .ok merged =>
    (.ok
      { findings := merged.findings
        suppressed := merged.suppressed
        failures := lost ++ outcomes.flatMap ItemOutcome.failures
        itemsScanned := scanned
        cancelled
        duration := 0 },
     events ++ if cancelled then
        [.batchCancelled scanned outcomes.length merged.findings.length] else [])

/-- Scans items with rules. -/
def scanBatch (settings : BatchSettings) (rules : List CompiledRule) (items : List Item) :
    Except LocationError BatchResult × List Event :=
  let (runs, signal) := runItems settings.options rules settings.signal items
  reportRuns settings runs signal

/-- How a supply of items breaks off. -/
inductive SupplyFault where
  /-- Further work is refused. -/
  | refused
  /-- The items cannot be produced. -/
  | broken
deriving DecidableEq, Repr

/-- Items to scan, which may break off. -/
structure Supply where
  /-- The items that are produced. -/
  items : List Item
  /-- How the supply breaks off, if it does. -/
  fault : Option SupplyFault
deriving DecidableEq, Repr

/-- Why a batch has no result. -/
inductive BatchError where
  /-- The supply broke off. -/
  | supply (fault : SupplyFault)
  /-- A location is invalid. -/
  | location (e : LocationError)
deriving DecidableEq, Repr

/-- Scans a supply of items. What was produced before the supply broke off has been scanned, but is
not reported. -/
def scanSupply (settings : BatchSettings) (rules : List CompiledRule) (supply : Supply) :
    Except BatchError BatchResult × List Event :=
  match supply.fault with
  | none =>
    let (result, events) := scanBatch settings rules supply.items
    (result.mapError .location, events)
  | some fault =>
    let (runs, _) := runItems settings.options rules settings.signal supply.items
    (.error (.supply fault),
     runs.flatMap fun (_, run) => run.units.flatMap fun u => u.events settings.options.timeout)

end SecretScan
