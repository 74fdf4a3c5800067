import SecretScan.Json.Basic
import SecretScan.Log.Level

/-!
# Log events

What happens while rules are loaded and applied is told by events. An event has a name, a level and
fields. No event has a field for scanned content: what can be said about a match is the rule, the
place and the kind of a failure.
-/

namespace SecretScan

/-- Why an entry of a rule file is left out. -/
inductive SkipReason where
  /-- The entry has no fields. -/
  | notMapping
  /-- The entry has neither an id nor a name. -/
  | noId
  /-- The rule has no pattern. -/
  | noPattern (ruleId : String)
  /-- A field has a value of the wrong type. -/
  | wrongType
  /-- A field has a value that cannot be read. -/
  | wrongValue
deriving DecidableEq, Repr

/-- The reason in words. -/
def SkipReason.message : SkipReason → String
  | notMapping => "not a mapping"
  | noId => "missing id and name"
  | noPattern _ => "missing pattern"
  | wrongType => "TypeError"
  | wrongValue => "ValueError"

/-- Something worth telling. -/
inductive Event where
  /-- An entry of a rule file is left out. -/
  | entrySkipped (reason : SkipReason)
  /-- A rule has a confidence label that means nothing. -/
  | confidenceUnknown (ruleId confidence : String)
  /-- A rule does not compile. -/
  | compileFailed (ruleId error : String) (written converted : Text)
  /-- A rule compiles although its groups do not balance. -/
  | validatorDisagreed (ruleId error : String)
  /-- A rule takes the place of an earlier one. -/
  | ruleReplaced (ruleId : String)
  /-- Rules have been compiled. -/
  | ruleSetCompiled (compiled failed : Nat)
  /-- Rules have been read from a file or folder. -/
  | customRulesLoaded (path : String) (count : Nat)
  /-- The cache has built its rule set. -/
  | ruleSetBuilt (rules failed : Nat)
  /-- A rule took longer than it may. -/
  | ruleTimedOut (ruleId : String) (timeout : Float)
  /-- A rule failed on some content. -/
  | ruleFailed (ruleId kind : String)
  /-- An item could not be scanned. -/
  | itemFailed (location : Text) (kind : String)
  /-- A batch was stopped before all of it was scanned. -/
  | batchCancelled (scanned total findings : Nat)

namespace Event

/-- The name of the event. -/
def name : Event → String
  | entrySkipped .. => "rule_entry_skipped"
  | confidenceUnknown .. => "rule_confidence_unknown"
  | compileFailed .. => "rule_compile_failed"
  | validatorDisagreed .. => "validator_disagreed"
  | ruleReplaced .. => "rule_replaced"
  | ruleSetCompiled .. => "rule_set_compiled"
  | customRulesLoaded .. => "custom_rules_loaded"
  | ruleSetBuilt .. => "rule_set_built"
  | ruleTimedOut .. => "rule_scan_timeout"
  | ruleFailed .. => "rule_scan_failed"
  | itemFailed .. => "item_scan_failed"
  | batchCancelled .. => "batch_cancelled"

/-- The level of the event. -/
def level : Event → Level
  | entrySkipped .. | confidenceUnknown .. | compileFailed .. | ruleTimedOut .. | ruleFailed ..
  | itemFailed .. => .warning
  | ruleReplaced .. | ruleSetBuilt .. | batchCancelled .. => .info
  | validatorDisagreed .. | ruleSetCompiled .. | customRulesLoaded .. => .debug

/-- A field that holds text. -/
def ofText (t : Text) : Json :=
  .text (String.ofList t)

/-- The fields of the event. -/
def fields : Event → List (String × Json)
  | entrySkipped (.noPattern ruleId) =>
    [("rule_id", .text ruleId), ("reason", .text (SkipReason.noPattern ruleId).message)]
  | entrySkipped reason => [("reason", .text reason.message)]
  | confidenceUnknown ruleId confidence =>
    [("rule_id", .text ruleId), ("confidence", .text confidence)]
  | compileFailed ruleId error written converted =>
    [("rule_id", .text ruleId), ("error", .text error), ("original", ofText written),
     ("converted", ofText converted)]
  | validatorDisagreed ruleId error =>
    [("rule_id", .text ruleId), ("validator_error", .text error)]
  | ruleReplaced ruleId => [("rule_id", .text ruleId)]
  | ruleSetCompiled compiled failed => [("compiled", .nat compiled), ("failed", .nat failed)]
  | customRulesLoaded path count => [("path", .text path), ("count", .nat count)]
  | ruleSetBuilt rules failed => [("rules", .nat rules), ("failed", .nat failed)]
  | ruleTimedOut ruleId timeout => [("rule_id", .text ruleId), ("timeout_s", .float timeout)]
  | ruleFailed ruleId kind => [("rule_id", .text ruleId), ("error_type", .text kind)]
  | itemFailed location kind => [("source_location", ofText location), ("error_type", .text kind)]
  | batchCancelled scanned total findings =>
    [("items_scanned", .nat scanned), ("items_total", .nat total), ("findings", .nat findings)]

end Event

end SecretScan
