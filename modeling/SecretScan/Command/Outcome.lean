import SecretScan.Console.Table
import SecretScan.File.Write
import SecretScan.Finding.Location
import SecretScan.Log.Line
import SecretScan.Rule.Registry
import SecretScan.Settings.Load

/-!
# Outcomes of commands

A command prints something for programs and something for people, may write a file, and ends with an
exit code: 0 if all is well, 1 if there is something to look at, 2 if it could not do its work. It
also says so if it is stopped by something that it does not expect, which ends it with 1.
-/

namespace SecretScan

/-- What a command can see and use. -/
structure Surroundings where
  /-- The files. -/
  files : Files
  /-- The variables of the environment. -/
  env : Environment
  /-- What reads documents. -/
  reader : DocumentReader := Yaml.readBytes
  /-- What makes searches out of patterns. -/
  engine : Engine := Regex.engine
  /-- What puts text on the screen. -/
  console : Console := .usual
  /-- The columns of the screen. -/
  screen : Nat := Console.usualWidth
  /-- What is said about a file that cannot be read as what it should be. -/
  syntaxError : String := "syntax error"

/-- A line that is written in markup. -/
def Surroundings.line (s : Surroundings) (markup : String) : Console.Shown :=
  s.console.shown s.screen markup.toList

/-- Why a command does not come to its end. -/
inductive Refusal where
  /-- There are no settings. -/
  | settings (e : SettingsError)
  /-- The form of reports is unknown. -/
  | format (name : Text)
  /-- There are no rules. -/
  | rules (e : BuildError)
  /-- The time for a rule and an item is no number. -/
  | timeout (e : Misfit)
  /-- The number of items that are scanned at the same time is no number. -/
  | workers
  /-- The level of what is told is no text. -/
  | level
  /-- The name of the level of what is told stands for something else. -/
  | otherLevel (said : String)
  /-- A folder that is to be scanned may not be entered. -/
  | collecting (e : AccessError)
  /-- The location of an item is invalid. -/
  | location (e : LocationError)
  /-- What is to be shown makes no sense as markup. -/
  | markup (e : MarkupError)
  /-- A file cannot be written. -/
  | write (e : WriteError)
deriving DecidableEq, Repr

/-- Whether the loading of rules tells what is wrong. -/
def LoadError.isExplained : LoadError → Bool
  | notFound _ | isFolder _ | yaml _ .malformed | document (.notList _) => true
  | _ => false

/-- Whether the loading of settings tells what is wrong. -/
def SettingsError.isExplained : SettingsError → Bool
  | barred _ | encoding _ | tooManyDigits _ | notList => false
  | _ => true

/-- The refusal in words, for those that a user can do something about. -/
def Refusal.notice? (syntaxError : String) : Refusal → Option String
  | settings e =>
    if e.isExplained then
      some s!"[bold red]Config error:[/bold red] {e.message syntaxError}"
    else none
  | format name => some s!"[bold red]Invalid format:[/bold red] {String.ofList name}"
  | rules (.load e) =>
    if e.isExplained then some s!"[bold red]Rule error:[/bold red] {e.message syntaxError}"
    else none
  | _ => none

/-- The refusal in words, for all others. A value of the wrong type has none. -/
def Refusal.message (syntaxError : String) : Refusal → String
  | settings e => e.message syntaxError
  | rules (.load e) => e.message syntaxError
  | timeout .tooLarge => (DocumentError.misfit .tooLarge).message
  | otherLevel said => said
  | collecting e => e.message
  | location e => e.message
  | markup e => e.message
  | write e => e.message
  | _ => ""

/-- What a command comes to. -/
structure Outcome where
  /-- What is printed for programs. -/
  out : Text := []
  /-- What is printed for people. -/
  err : Text := []
  /-- The log lines. -/
  told : List Text := []
  /-- A file that is written. -/
  written : Option (Path × Text) := none
  /-- What stopped the command, if it did not expect it. -/
  stopped : Option Refusal := none
  /-- The exit code. -/
  exit : Nat := 0

namespace Outcome

/-- The outcome of a command that is stopped. -/
def halted (o : Outcome) (r : Refusal) : Outcome :=
  { o with stopped := some r, exit := 1 }

/-- Goes on by showing something to people, unless what is to be shown makes no sense. -/
def say (o : Outcome) (shown : List Console.Shown) (next : Outcome → Outcome) : Outcome :=
  match Console.emit shown with
  | (t, none) => next { o with err := o.err ++ t }
  | (t, some e) => { o with err := o.err ++ t }.halted (.markup e)

/-- Goes on by showing something for programs, unless what is to be shown makes no sense. -/
def print (o : Outcome) (shown : List Console.Shown) (next : Outcome → Outcome) : Outcome :=
  match Console.emit shown with
  | (t, none) => next { o with out := o.out ++ t }
  | (t, some e) => { o with out := o.out ++ t }.halted (.markup e)

/-- Ends with an exit code. -/
def done (code : Nat) (o : Outcome) : Outcome :=
  { o with exit := code }

/-- The outcome of a refusal. -/
def refuse (s : Surroundings) (o : Outcome) (r : Refusal) : Outcome :=
  match r.notice? s.syntaxError with
  | some notice => o.say [s.line notice] (done 2)
  | none => o.halted r

end Outcome

end SecretScan
