import SecretScan.Console.Table
import SecretScan.Decimal.Fixed
import SecretScan.Report.Json

/-!
# Reports for people

The findings of a batch as a table on a screen, and below it a summary of the batch.
-/

namespace SecretScan

namespace Report

/-- The sign for a score: red, yellow or blue. -/
def signOf (score : Score) : Char :=
  if 85 ≤ score.val then '🔴'
  else if 70 ≤ score.val then '🟡'
  else '🔵'

/-- The cell for a score. -/
def scoreCell (score : Score) : Text :=
  ' ' :: signOf score :: ' ' :: (toString score.val).toList ++ [' ']

/-- The columns of the table of findings. -/
def findingColumns : List Console.Column :=
  [{ name := "Confidence".toList, align := .centre, fixed := some 12 },
   { name := "Rule".toList, least := 20 },
   { name := "Source".toList },
   { name := "Line".toList, align := .right },
   { name := "Entropy".toList, align := .right },
   { name := "Match".toList, least := 15 }]

/-- A number with some decimal places, or a stroke for none. -/
def numberCell (places : Nat) : Option Float → Text
  | some x => (Decimal.fixed x places).toList
  | none => ['-']

/-- The row of a finding. All but the score is handed over as markup. -/
def findingRow (redacted : Bool) (f : Finding) : List Console.Entry :=
  [.plain (scoreCell f.score), .markup f.found.ruleName.toList, .markup f.location,
   .markup (toString f.line).toList, .markup (numberCell 2 f.found.entropy),
   .markup (display redacted f.found.text)]

/-- The table of findings. -/
def findingTable (redacted : Bool) (findings : List Finding) : Console.Table :=
  { title := "secretlens findings".toList
    columns := findingColumns
    rows := findings.map (findingRow redacted)
    isRuled := true }

/-- The lines below the findings; `line` shows a line that is written in markup. -/
def summary (line : String → Console.Shown) (r : BatchResult) : List Console.Shown :=
  [line "",
   line s!"[dim]Items scanned:[/dim] {r.itemsScanned}",
   line s!"[dim]Findings:[/dim]      {r.findings.length}",
   line s!"[dim]Suppressed:[/dim]    {r.suppressed.length}"]
  ++ (if r.failures.isEmpty then []
    else [line (s!"[dim]Rule failures:[/dim] {r.failures.length} " ++
      s!"({r.timeouts.length} timed out)")])
  ++ (if r.cancelled then
      [line "[bold yellow]⚠️  Scan cancelled — results are partial.[/bold yellow]"]
    else [])
  ++ [line s!"[dim]Duration:[/dim]      {Decimal.fixed r.duration 0}ms"]

end Report

open Report in
/-- The report for people on a screen of some width. -/
def BatchResult.shown (screen : Nat) (redacted summarised : Bool) (r : BatchResult)
    (console : Console := .usual) : List Console.Shown :=
  let line (markup : String) : Console.Shown := console.shown screen markup.toList
  line ""
  :: (if r.findings.isEmpty then line "[bold green]✅ No secrets detected.[/bold green]"
    else (findingTable redacted r.findings).shown console)
  :: if summarised then summary line r else []

end SecretScan
