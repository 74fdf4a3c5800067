import SecretScan.Finding.Redact
import SecretScan.Json.Print
import SecretScan.Scan.Batch

/-!
# Reports for code scanning services

The findings of a batch in the Static Analysis Results Interchange Format, version 2.1.0. Every rule
that found something is described once, by its first finding. No matched text is ever shown.
-/

namespace SecretScan

namespace Sarif

/-- The version of this program. -/
def programVersion : String := "0.1.0"

/-- Where the format is defined. -/
def schema : String :=
  "https://raw.githubusercontent.com/oasis-tcs/sarif-spec/main/sarif-2.1/schema/" ++
    "sarif-schema-2.1.0.json"

/-- How grave a finding with a score is. -/
inductive Severity where
  /-- It has to be dealt with. -/
  | error
  /-- It should be looked at. -/
  | warning
  /-- It may be of interest. -/
  | note
deriving DecidableEq, Repr

/-- The severity as it is written. -/
def Severity.name : Severity → String
  | error => "error"
  | warning => "warning"
  | note => "note"

/-- The severity of a score. -/
def severityOf (score : Score) : Severity :=
  if 85 ≤ score.val then .error
  else if 70 ≤ score.val then .warning
  else .note

/-- A score on the scale from 0.0 to 10.0. -/
def gradeOf (score : Score) : String :=
  s!"{score.val / 10}.{score.val % 10}"

/-- An object with a single field for text. -/
def textObject (t : String) : Json :=
  .object [("text", .text t)]

/-- The description of the rule of a finding. -/
def ruleOf (f : Finding) : Json :=
  .object
    [("id", .text f.found.ruleId),
     ("name", .text f.found.ruleName),
     ("shortDescription", textObject f.found.ruleName),
     ("defaultConfiguration", .object [("level", .text (severityOf f.score).name)]),
     ("properties", .object [("security-severity", .text (gradeOf f.score))])]

/-- The place of a finding. -/
def placeOf (f : Finding) : Json :=
  .object
    [("physicalLocation", .object
      [("artifactLocation", .object [("uri", Event.ofText f.location)]),
       ("region", .object
         [("startLine", .int (max f.line 1)),
          ("snippet", textObject (String.ofList hidden))])])]

/-- A finding. -/
def resultOf (f : Finding) : Json :=
  .object
    [("ruleId", .text f.found.ruleId),
     ("level", .text (severityOf f.score).name),
     ("message", textObject s!"{f.found.ruleName} detected {String.ofList hidden}"),
     ("locations", .list [placeOf f]),
     ("properties", .object [("confidence", .nat f.score.val)])]

/-- The first finding of every rule, unless the rule is among those that are known already. -/
def firsts (known : List String) : List Finding → List Finding
  | [] => []
  | f :: fs =>
    if f.found.ruleId ∈ known then firsts known fs
    else f :: firsts (f.found.ruleId :: known) fs

end Sarif

open Sarif in
/-- The report for code scanning services. -/
def BatchResult.toSarif (r : BatchResult) : Json :=
  .object
    [("$schema", .text schema),
     ("version", .text "2.1.0"),
     ("runs", .list
       [.object
         [("tool", .object
           [("driver", .object
             [("name", .text "secretlens"),
              ("version", .text programVersion),
              ("rules", .list ((firsts [] r.findings).map ruleOf))])]),
          ("results", .list (r.findings.map resultOf))]])]

end SecretScan
