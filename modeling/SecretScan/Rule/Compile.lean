import SecretScan.Catalog
import SecretScan.Event
import SecretScan.Pattern.Native
import SecretScan.Rule.Basic
import SecretScan.Rule.Engine

/-!
# Compiled rules

Compiling a rule brings its pattern into native form and hands that to an engine. Only the engine
decides whether the rule is usable; the balance check gives advice. A rule that does not compile is
left out, with a diagnostic, and the other rules are not affected.
-/

namespace SecretScan

/-- A rule with its matcher. -/
structure CompiledRule where
  /-- The rule. -/
  rule : Rule
  /-- Its pattern in native form. -/
  native : Pattern.Native
  /-- The search for that pattern. -/
  matcher : Matcher

/-- The identifier of a compiled rule. -/
def CompiledRule.id (r : CompiledRule) : String :=
  r.rule.id

/-- What is wrong with a rule. -/
inductive Objection where
  /-- It has no pattern. -/
  | noPattern
  /-- The engine cannot read its pattern. -/
  | refused (complaint : Complaint)
  /-- The engine reads its pattern although the groups do not balance. -/
  | unbalanced (message : String)
deriving DecidableEq, Repr

/-- The objection in words. -/
def Objection.message : Objection → String
  | noPattern => "Rule has no pattern"
  | refused complaint => complaint.message
  | unbalanced message => message

/-- The record of an objection to a rule. -/
structure Diagnostic where
  /-- The rule. -/
  ruleId : String
  /-- What is wrong. -/
  objection : Objection
  /-- The beginning of the pattern as written. -/
  written : Text
  /-- The beginning of the pattern in native form. -/
  converted : Text
deriving DecidableEq, Repr

/-- Whether the rule is usable all the same. -/
def Diagnostic.accepted (d : Diagnostic) : Bool :=
  match d.objection with
  | .unbalanced _ => true
  | _ => false

/-- At most `limit` characters of `t`; an ellipsis tells that some are missing. -/
def preview (t : Text) (limit : Nat) : Text :=
  if t.length ≤ limit then t else t.take limit ++ "...".toList

/-- How much of a written pattern is shown. -/
def writtenPreview : Nat := 150

/-- How much of a native pattern is shown. -/
def nativePreview : Nat := 200

/-- What compiling one rule yields. -/
inductive Compilation where
  /-- A usable rule. -/
  | compiled (rule : CompiledRule)
  /-- A usable rule to which the balance check objects. -/
  | doubtful (rule : CompiledRule) (d : Diagnostic)
  /-- No usable rule. -/
  | failed (d : Diagnostic)

namespace Compilation

/-- The usable rule. -/
def rule? : Compilation → Option CompiledRule
  | compiled rule => some rule
  | doubtful rule _ => some rule
  | failed _ => none

/-- The objection. -/
def diagnostic? : Compilation → Option Diagnostic
  | compiled _ => none
  | doubtful _ d => some d
  | failed d => some d

/-- What is told about it. A rule without a pattern is recorded but not told. -/
def events : Compilation → List Event
  | compiled _ => []
  | doubtful _ d => [.validatorDisagreed d.ruleId d.objection.message]
  | failed d =>
    match d.objection with
    | .noPattern => []
    | _ => [.compileFailed d.ruleId d.objection.message d.written d.converted]

end Compilation

/-- The flags of a pattern that matter for reading it. -/
def readingFlags (flags : Pattern.FlagSet) : Regex.Flags :=
  ⟨'i' ∈ flags, 'm' ∈ flags, 's' ∈ flags⟩

/-- Compiles a rule. -/
def compile (engine : Engine) (rule : Rule) : Compilation :=
  match rule.usablePattern? with
  | none => .failed ⟨rule.id, .noPattern, [], []⟩
  | some pattern =>
    let native := Pattern.convert pattern
    let diagnostic objection : Diagnostic :=
      ⟨rule.id, objection, preview pattern writtenPreview, preview native.pattern nativePreview⟩
    match engine.read (readingFlags native.flags) native.pattern with
    | .error complaint => .failed (diagnostic (.refused complaint))
    | .ok matcher =>
      let compiled : CompiledRule := ⟨rule, native, matcher⟩
      match (Pattern.balance native.pattern).message? with
      | none => .compiled compiled
      | some message => .doubtful compiled (diagnostic (.unbalanced message))

/-- Usable rules by identifier, and the objections met while compiling them. -/
structure RuleSet where
  /-- The usable rules. -/
  rules : Catalog CompiledRule CompiledRule.id
  /-- The objections, in the order of the rules. -/
  diagnostics : List Diagnostic

namespace RuleSet

/-- The set without rules. -/
def empty : RuleSet :=
  ⟨.empty, []⟩

/-- The objections to rules that are not usable. -/
def failures (set : RuleSet) : List Diagnostic :=
  set.diagnostics.filter fun d => !d.accepted

/-- Takes in what compiling a rule yielded. -/
def add (set : RuleSet) (c : Compilation) : RuleSet :=
  { rules := match c.rule? with
      | some rule => set.rules.put rule
      | none => set.rules
    diagnostics := set.diagnostics ++ c.diagnostic?.toList }

/-- What is told when a usable rule takes the place of another one. -/
def replacement (set : RuleSet) (c : Compilation) : List Event :=
  match c.rule? with
  | some rule => if set.rules.contains rule.id then [.ruleReplaced rule.id] else []
  | none => []

/-- Compiles rules one after the other into a set. -/
def compileInto (engine : Engine) (set : RuleSet) : List Rule → RuleSet × List Event
  | [] => (set, [])
  | rule :: rules =>
    let c := compile engine rule
    let (final, events) := compileInto engine (set.add c) rules
    (final, c.events ++ set.replacement c ++ events)

/-- The set in one line. -/
def summary (set : RuleSet) : String :=
  s!"RuleSet({set.rules.entries.length} rules, {set.failures.length} failed)"

/-- The rules that do not find their own examples, with the examples they miss. -/
def misses (set : RuleSet) : List (String × List Text) :=
  set.rules.entries.filterMap fun r =>
    match r.rule.examples.filter fun e => !r.matcher.occursIn e with
    | [] => none
    | missed => some (r.id, missed)

end RuleSet

/-- Compiles all rules. Of several rules with the same identifier the last one that compiles counts,
in the place of the first one. -/
def compileAll (rules : List Rule) (engine : Engine := Regex.engine) : RuleSet × List Event :=
  let (set, events) := RuleSet.compileInto engine .empty rules
  (set, events ++ [.ruleSetCompiled set.rules.entries.length set.failures.length])

end SecretScan
