import SecretScan.Command.Setup
import SecretScan.Report.Terminal

/-!
# Looking over rules

The rules that a scan would use are shown as a table, each with how many of its own examples it
finds. Below stand the rules that did not compile and those whose groups do not seem to balance.
-/

namespace SecretScan

/-- The columns of the table of rules. -/
def ruleColumns : List Console.Column :=
  [{ name := "ID".toList },
   { name := "Name".toList },
   { name := "Flags".toList, align := .centre },
   { name := "Confidence".toList, align := .centre },
   { name := "Min entropy".toList, align := .right },
   { name := "Examples".toList, align := .centre }]

/-- How many of its examples a rule finds. -/
def examplesCell (all missed : Nat) : String :=
  if all = 0 then "-"
  else if missed = 0 then s!"[green]{all}/{all}[/green]"
  else s!"[red]{all - missed}/{all}[/red]"

/-- The row of a rule. -/
def ruleRow (misses : List (String × List Text)) (r : CompiledRule) : List Console.Entry :=
  [r.id.toList, r.rule.name.toList, (Pattern.FlagSet.render r.native.flags).toList,
   r.rule.confidence.label.toList, Report.numberCell 1 r.rule.minEntropy,
   (examplesCell r.rule.examples.length ((misses.lookup r.id).getD []).length).toList].map .markup

/-- The table of rules. -/
def ruleTable (set : RuleSet) : Console.Table :=
  { title := "Compiled rules".toList
    columns := ruleColumns
    rows := set.rules.entries.map (ruleRow set.misses)
    isRuled := false }

/-- What is said about a rule that is not as it should be. -/
def Diagnostic.shown (s : Surroundings) (d : Diagnostic) : List Console.Shown :=
  if d.accepted then
    [s.line (s!"[yellow]⚠[/yellow]  {d.ruleId}: compiled despite validator " ++
      s!"({d.objection.message})")]
  else
    [s.line s!"[red]✗[/red] {d.ruleId}: {d.objection.message}",
     s.line s!"    [dim]original:[/dim]  {String.ofList d.written}",
     s.line s!"    [dim]converted:[/dim] {String.ofList d.converted}"]

/-- What a look at rules shows. -/
def RuleSet.shown (s : Surroundings) (set : RuleSet) : List Console.Shown :=
  (ruleTable set).shown s.console :: set.diagnostics.flatMap (Diagnostic.shown s)

/-- Whether all rules compile and find their examples. -/
def RuleSet.isSound (set : RuleSet) : Bool :=
  set.failures.isEmpty && set.misses.isEmpty

/-- Looks over the rules. -/
def RulesArguments.run (args : RulesArguments) (s : Surroundings) : Outcome :=
  match (do
    let settings ← args.settings s
    return (settings, ← settings.log.told?) : Except Refusal (Settings × LogFilter)) with
  | .error r => Outcome.refuse s {} r
  | .ok (settings, filter) =>
    let (events, rules) := ruleSetFor s settings args.rules
    let o : Outcome := { told := filter.lines (events.map Event.entry) }
    match rules with
    | .error r => o.refuse s r
    | .ok set =>
      o.print (set.shown s) (.done (if args.strict && !set.isSound then 1 else 0))

end SecretScan
