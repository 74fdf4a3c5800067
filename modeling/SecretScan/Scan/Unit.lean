import SecretScan.Event
import SecretScan.Rule.Compile
import SecretScan.Scan.Entropy
import SecretScan.Scan.Requirement

/-!
# Applying a rule to content

One rule and one piece of content make up a unit. Its matches are found from left to right; the
search goes on at the end of a match, or one character after an empty match, which does not count.
Every match has to pass the gates of the rule. A unit that fails has no matches at all, and the
units of other rules are not affected.
-/

namespace SecretScan

/-- How the entropy of a match is measured. -/
abbrev Measure := Text → Except Raised Float

/-- How rules are applied. -/
structure Options where
  /-- The measure of entropy; without one, no match is rejected for its entropy. -/
  measure : Option Measure
  /-- Whether requirements are checked. -/
  checkRequirements : Bool
  /-- The least entropy for all rules; a rule may ask for more. -/
  minEntropy : Option Float
  /-- The time for a unit, in seconds. -/
  timeout : Float
  /-- Whether a match with a term that marks it as an example is kept and marked. -/
  keepIgnored : Bool

/-- The Shannon entropy as a measure. -/
def shannonMeasure : Measure := fun t =>
  .ok (Entropy.shannon t)

/-- The usual options. -/
def Options.default : Options :=
  { measure := some shannonMeasure, checkRequirements := true, minEntropy := none, timeout := 1.0,
    keepIgnored := false }

/-- A match that passed the gates of its rule. -/
structure Match where
  /-- The rule. -/
  ruleId : String
  /-- The name of the rule. -/
  ruleName : String
  /-- The confidence of the rule. -/
  confidence : Confidence
  /-- The matched text. -/
  text : Text
  /-- The offset at which it begins. -/
  offset : Nat
  /-- Its entropy, if that was measured. -/
  entropy : Option Float
  /-- Whether it holds a term that marks it as an example. -/
  ignored : Bool

/-- The offset at which a match ends. -/
def Match.stop (m : Match) : Nat :=
  m.offset + m.text.length

/-- The larger of two thresholds, if any is set. The first one stays unless the second one is
greater, so a threshold that is not a number stays too. -/
def largerThreshold : Option Float → Option Float → Option Float
  | some a, some b => some (if a < b then b else a)
  | some a, none => some a
  | none, b => b

/-- Whether an entropy is too low. -/
def belowThreshold : Option Float → Option Float → Bool
  | some entropy, some threshold => entropy < threshold
  | _, _ => false

/-- What the requirements of a rule say about a match. -/
inductive Gate where
  /-- The match passes. -/
  | pass
  /-- The match passes with a mark. -/
  | mark
  /-- The match is rejected. -/
  | reject
deriving DecidableEq, Repr

/-- Checks a matched text against the requirements of a rule, as far as the options ask for it. -/
def requirementGate (options : Options) (requirements : Option Requirements) (t : Text) : Gate :=
  match options.checkRequirements, requirements with
  | true, some requirements =>
    match requirements.check t with
    | .passed => .pass
    | .ignored _ => if options.keepIgnored then .mark else .reject
    | .short .. => .reject
  | _, _ => .pass

/-- Measures a matched text. -/
def Options.measured (options : Options) (t : Text) : Except Raised (Option Float) :=
  match options.measure with
  | some measure => (measure t).map some
  | none => .ok none

/-- The match of a rule at an offset, if it passes both gates. -/
def CompiledRule.admit (r : CompiledRule) (options : Options) (t : Text) (offset : Nat) :
    Except Raised (Option Match) := do
  let entropy ← options.measured t
  if belowThreshold entropy (largerThreshold r.rule.minEntropy options.minEntropy) then
    return none
  let gate := requirementGate options r.rule.requirements t
  if gate = .reject then
    return none
  return some
    { ruleId := r.id, ruleName := r.rule.name, confidence := r.rule.confidence, text := t, offset,
      entropy, ignored := gate = .mark }

/-- How a pass over content ends. -/
inductive Ending where
  /-- Nothing more is found. -/
  | exhausted
  /-- The scan is asked to stop. -/
  | cancelled
  /-- A search or a measurement failed. -/
  | failed (e : Raised)
deriving DecidableEq, Repr

/-- A pass of a rule over content. -/
structure Pass where
  /-- The matches, from left to right. -/
  found : List Match
  /-- How the pass ended. -/
  ending : Ending

/-- The pass of a rule over content from an offset on. Every step moves to the right, since a match
that is not empty ends after the place where its search began. -/
def CompiledRule.passFrom (r : CompiledRule) (options : Options) (content : Text) (pos : Nat) :
    Pass :=
  if _inside : pos ≤ content.length then
    match _reply : r.matcher.search content pos with
    | .nothing => ⟨[], .exhausted⟩
    | .cancel => ⟨[], .cancelled⟩
    | .fault e => ⟨[], .failed e⟩
    | .found start stop =>
      if start = stop then r.passFrom options content (stop + 1)
      else
        match r.admit options (content.slice start stop) start with
        | .error e => ⟨[], .failed e⟩
        | .ok admitted =>
          let rest := r.passFrom options content stop
          ⟨admitted.toList ++ rest.found, rest.ending⟩
  else ⟨[], .exhausted⟩
termination_by content.length + 1 - pos
decreasing_by
  all_goals
    have := r.matcher.bounds _inside _reply
    omega

/-- The outcome of a unit. -/
structure UnitResult where
  /-- The rule. -/
  ruleId : String
  /-- The matches; there are none if the unit failed. -/
  found : List Match
  /-- What went wrong. -/
  failure : Option Fault
  /-- Whether the scan is asked to stop. -/
  cancels : Bool

/-- The outcome of a unit whose rule is not applied. -/
def UnitResult.idle (ruleId : String) : UnitResult :=
  ⟨ruleId, [], none, false⟩

/-- The outcome of a pass. Of what was raised only the fault is recorded. -/
def Pass.result (p : Pass) (ruleId : String) : UnitResult :=
  match p.ending with
  | .exhausted => ⟨ruleId, p.found, none, false⟩
  | .cancelled => ⟨ruleId, p.found, none, true⟩
  | .failed e => ⟨ruleId, [], some e.fault, false⟩

/-- Applies a rule to content. Without any time left nothing is searched. -/
def CompiledRule.apply (r : CompiledRule) (options : Options) (content : Text) : UnitResult :=
  if options.timeout ≤ 0 then ⟨r.id, [], some .timeout, false⟩
  else (r.passFrom options content 0).result r.id

/-- What is told about a unit. -/
def UnitResult.events (u : UnitResult) (timeout : Float) : List Event :=
  match u.failure with
  | none => []
  | some .timeout => [.ruleTimedOut u.ruleId timeout]
  | some (.error kind) => [.ruleFailed u.ruleId kind]

/-- Applies rules to content, one unit a rule. Content without any character is not scanned. -/
def scanUnits (options : Options) (content : Text) (rules : List CompiledRule) : List UnitResult :=
  if content.isEmpty then [] else rules.map fun r => r.apply options content

/-- The matches of rules in content, rule by rule. -/
def scan (options : Options) (content : Text) (rules : List CompiledRule) : List Match :=
  (scanUnits options content rules).flatMap UnitResult.found

end SecretScan
