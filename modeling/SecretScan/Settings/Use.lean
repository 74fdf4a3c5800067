import SecretScan.Scan.Unit
import SecretScan.Settings.Basic

/-!
# Settings in use

What a scan asks of the settings it goes by. A value of a type that cannot be used shows here.
-/

namespace SecretScan

/-- The time for a rule and an item, in seconds. It is a thousandth of a second at least. -/
def ScanSettings.seconds (s : ScanSettings) : Except Misfit Float :=
  match s.timeout with
  | .bool _ => .ok (1.0 / 1000.0)
  | .int n => (Decimal.ofInt (max n 1)).map fun x => x / 1000.0
  | .float x => .ok ((if x < 1.0 then 1.0 else x) / 1000.0)
  | _ => .error .wrongType

/-- A whole number as a bound; far beyond all entropies it is infinite. -/
def boundOf (n : Int) : Float :=
  match Decimal.ofInt n with
  | .ok x => x
  | .error _ => if n < 0 then -1.0 / 0.0 else 1.0 / 0.0

/-- The least entropy for all rules, if there is one; nothing if entropies cannot be compared with
the value. -/
def ScanSettings.entropyBound? (s : ScanSettings) : Option (Option Float) :=
  match s.minEntropy with
  | .null => some none
  | .bool b => some (some (if b then 1.0 else 0.0))
  | .int n => some (some (boundOf n))
  | .float x => some (some x)
  | _ => none

/-- The measure that fails because an entropy cannot be compared. -/
def brokenMeasure : Measure := fun _ =>
  .error (.error "TypeError")

/-- The options of a scan. -/
def ScanSettings.options (s : ScanSettings) : Except Misfit Options := do
  let timeout ← s.seconds
  let (measure, minEntropy) := match s.entropyBound? with
    | some bound => (shannonMeasure, bound)
    | none => (brokenMeasure, none)
  return {
    measure := some measure
    checkRequirements := s.checkRequirements.isGiven
    minEntropy
    timeout
    keepIgnored := s.keepIgnored.isGiven }

/-- Whether the number of items that are scanned at the same time is a number. -/
def ScanSettings.hasWorkers (s : ScanSettings) : Bool :=
  match s.maxWorkers with
  | .bool _ | .int _ | .float _ => true
  | _ => false

/-- The least whole number that is not less than a bound for scores. -/
def leastScore (x : Float) : Int :=
  if x.isNaN || x ≤ 0.0 then 0
  else if 100.0 < x then 101
  else
    match Decimal.truncate x with
    | .ok n => if boundOf n < x then n + 1 else n
    | .error _ => 0

/-- The least score that is reported; nothing if scores cannot be compared with the value. -/
def ScoringSettings.bound? (s : ScoringSettings) : Option Int :=
  match s.minScore with
  | .bool b => some (if b then 1 else 0)
  | .int n => some n
  | .float x => some (leastScore x)
  | _ => none

end SecretScan
