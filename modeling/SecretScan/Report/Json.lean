import SecretScan.Finding.Redact
import SecretScan.Json.Print
import SecretScan.Decimal.Numeral
import SecretScan.Scan.Batch

/-!
# Reports for programs

The whole result of a batch as a JSON value. Secrets are redacted unless the values themselves are
asked for; texts around a match are left out in any case.
-/

namespace SecretScan

/-- A secret as a report shows it. -/
def display (redacted : Bool) (secret : Text) : Text :=
  if redacted then redact secret else secret

/-- A finding as a report for programs has it. -/
def Finding.toJson (redacted : Bool) (f : Finding) : Json :=
  .object <|
    [("rule", .text f.found.ruleId),
     ("rule_name", .text f.found.ruleName),
     ("confidence", .nat f.score.val),
     ("confidence_label", .text f.found.confidence.label),
     ("source", Event.ofText f.location),
     ("line", .int f.line),
     ("offset", .nat f.found.offset),
     ("value", Event.ofText (display redacted f.found.text))]
    ++ (f.found.entropy.map fun x => ("entropy", Json.float (Decimal.roundTo x 2))).toList
    ++ if f.found.ignored then [("ignored", .bool true)] else []

/-- A suppression as a report for programs has it. -/
def Suppression.toJson (s : Suppression) : Json :=
  .object
    [("rule", .text s.ruleId),
     ("source", Event.ofText s.location),
     ("offset", .nat s.offset),
     ("reason", .text s.reason.label)]

/-- A failure as a report for programs has it. -/
def UnitFailure.toJson (f : UnitFailure) : Json :=
  .object
    [("rule", .text f.ruleId),
     ("source", Event.ofText f.location),
     ("kind", .text f.fault.kind),
     ("error", .text f.fault.detail)]

/-- The report for programs. -/
def BatchResult.toJson (redacted : Bool) (r : BatchResult) : Json :=
  .object
    [("version", .text "1.0"),
     ("items_scanned", .int r.itemsScanned),
     ("total_findings", .nat r.findings.length),
     ("cancelled", .bool r.cancelled),
     ("findings", .list (r.findings.map (Finding.toJson redacted))),
     ("suppressed", .nat r.suppressed.length),
     ("suppressed_details", .list (r.suppressed.map Suppression.toJson)),
     ("failures", .list (r.failures.map UnitFailure.toJson)),
     ("scan_duration_ms", .float r.duration)]

end SecretScan
