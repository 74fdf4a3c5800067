import SecretScan.Datum.Number

/-!
# Settings

What a run goes by. Settings come from a file whose values nobody has checked, so most of them are
kept as they were written; a value of the wrong type shows only where it is used.
-/

namespace SecretScan

/-- The form of a report. -/
inductive Format where
  /-- A table for people. -/
  | terminal
  /-- A JSON document. -/
  | json
  /-- A document in the Static Analysis Results Interchange Format. -/
  | sarif
deriving DecidableEq, Repr

/-- The name of a form. -/
def Format.name : Format → String
  | terminal => "terminal"
  | json => "json"
  | sarif => "sarif"

/-- The form with a name. -/
def Format.ofName? (name : Text) : Option Format :=
  [terminal, json, sarif].find? fun format => format.name.toList = name

/-- How content is scanned. -/
structure ScanSettings where
  /-- Whether the requirements of rules are checked. -/
  checkRequirements : Datum := .bool true
  /-- The least entropy for all rules. -/
  minEntropy : Datum := .null
  /-- The time for a rule and an item, in milliseconds. -/
  timeout : Datum := .int 1000
  /-- How many items are scanned at the same time. -/
  maxWorkers : Datum := .int 4
  /-- Whether matches that are marked as examples are reported. -/
  keepIgnored : Datum := .bool false

/-- How matches are scored. -/
structure ScoringSettings where
  /-- The least score that is reported. -/
  minScore : Datum := .int 60

/-- Which rules are used. -/
structure RuleSettings where
  /-- Whether the built-in rules are. -/
  builtin : Datum := .bool true
  /-- The files and folders of further rules. -/
  paths : Datum := .list []
  /-- The identifiers of the rules that are on; if there are none, all are. -/
  enable : Datum := .list []
  /-- The identifiers of the rules that are off in any case. -/
  disable : Datum := .list []

/-- How findings are reported. -/
structure OutputSettings where
  /-- The form of the report. -/
  format : Format := .terminal
  /-- Whether a report for people ends with a summary. -/
  showSummary : Datum := .bool true
  /-- Whether secrets are blotted out. -/
  redact : Datum := .bool true

/-- What is told on the way. -/
structure LogSettings where
  /-- The least level that is told. -/
  level : Datum := .text "WARNING".toList
  /-- Whether it is told in JSON. -/
  json : Datum := .bool false

/-- All settings. -/
structure Settings where
  /-- The version of the settings. -/
  version : Text := "1.0".toList
  /-- How content is scanned. -/
  scan : ScanSettings := {}
  /-- How matches are scored. -/
  scoring : ScoringSettings := {}
  /-- Which rules are used. -/
  rules : RuleSettings := {}
  /-- How findings are reported. -/
  output : OutputSettings := {}
  /-- What is told on the way. -/
  log : LogSettings := {}

end SecretScan
