import SecretScan.Command.Rules
import SecretScan.Command.Scan
import SecretScan.Settings.Template

/-!
# Running commands

What each command comes to.
-/

namespace SecretScan

/-- The version of the program in words. -/
def versionLine : String :=
  s!"secretlens {Sarif.programVersion}"

/-- What the program can do, in words. -/
def usage : String :=
  "Usage: secretlens [--version] COMMAND ...\n\n" ++
  "  scan PATHS...     scan files and folders for secrets\n" ++
  "  convert PATTERN   show the native form of a pattern\n" ++
  "  rules             compile the rules and report their status\n" ++
  "  init              write a settings file for a new project"

/-- Shows the native form of a pattern, its flags and whether its groups balance. -/
def runConvert (s : Surroundings) (pattern : Text) : Outcome :=
  let native := Pattern.convert pattern
  let verdict := match (Pattern.balance native.pattern).message? with
    | none => "[green]✓[/green] balanced"
    | some message => s!"[yellow]⚠[/yellow]  {message}"
  let extended := if native.extended then "True" else "False"
  Outcome.say { out := native.pattern ++ ['\n'] }
    [s.line s!"[dim]flags:[/dim]    {Pattern.FlagSet.render native.flags}",
     s.line s!"[dim]extended:[/dim] {extended}",
     s.line verdict]
    (.done 0)

/-- Writes the settings file of a new project. -/
def runInit (s : Surroundings) (force : Bool) : Outcome :=
  let path := s.files.home.child Settings.fileName
  let shownPath := String.ofList path.toText
  let name := String.ofList Settings.fileName
  match s.files.bar? path with
  | some e => Outcome.halted {} (.write (.barred e))
  | none =>
    if (s.files.find? path).isSome && !force then
      Outcome.say {} [s.line s!"[yellow]⚠[/yellow]  {name} already exists at {shownPath}"] (.done 1)
    else
      match s.files.objection? path with
      | some e => Outcome.halted {} (.write e)
      | none =>
        Outcome.say { written := some (path, template) }
          [s.line s!"[green]✓[/green] Created {shownPath}"] (.done 0)

/-- Runs a command. -/
def Command.run (s : Surroundings) : Command → Outcome
  | version => { out := versionLine.toList ++ ['\n'] }
  | help => { out := usage.toList ++ ['\n'] }
  | convert pattern => runConvert s pattern
  | init force => runInit s force
  | rules args => args.run s
  | scan args => args.run s

/-- The outcome of a command line that makes no sense. -/
def UsageError.outcome (e : UsageError) : Outcome :=
  { err := e.message.toList ++ ['\n'], exit := 2 }

/-- What a command comes to whose paths to scan may not be there. -/
def Command.runChecked (s : Surroundings) (command : Command) : Outcome :=
  match command.absent? s.files with
  | some path => (UsageError.noSuchPath path).outcome
  | none => command.run s

/-- What a command line comes to. -/
def runLine (s : Surroundings) (words : List Text) : Outcome :=
  match Command.read words with
  | .ok command => command.runChecked s
  | .error e => e.outcome

/-- The files after a command. -/
def Outcome.filesAfter (o : Outcome) (fs : Files) : Files :=
  match o.written with
  | some (path, content) => fs.write path (Utf8.encode content)
  | none => fs

end SecretScan
