import SecretScan.Command.Arguments
import SecretScan.Decimal.Numeral
import SecretScan.File.Tree

/-!
# Commands

There is a command to scan files, one to show the native form of a pattern, one to look over the
rules and one to set up a new project.
-/

namespace SecretScan

/-- What is to be scanned, and how. -/
structure ScanArguments where
  /-- The files and folders, as they are written. -/
  paths : List Text
  /-- The settings file. -/
  config : Option Text
  /-- The form of the report. -/
  format : Option Text
  /-- The file that the report is written to. -/
  output : Option Text
  /-- Files and folders of further rules. -/
  rules : List Path
  /-- Whether the built-in rules are left out. -/
  withoutBuiltin : Bool
  /-- The least score that is reported. -/
  minScore : Option Int
  /-- How many items are scanned at the same time. -/
  workers : Option Int
  /-- Whether the user wants to follow along. -/
  verbose : Bool
  /-- Whether the user looks into the details. -/
  debug : Bool
deriving DecidableEq, Repr

/-- Which rules are looked over, and how. -/
structure RulesArguments where
  /-- The settings file. -/
  config : Option Text
  /-- Files and folders of further rules. -/
  rules : List Path
  /-- Whether the built-in rules are left out. -/
  withoutBuiltin : Bool
  /-- Whether a rule that is not as it should be counts as a failure. -/
  strict : Bool
deriving DecidableEq, Repr

/-- What a user asks for. -/
inductive Command where
  /-- The version of the program. -/
  | version
  /-- What the program can do. -/
  | help
  /-- The native form of a pattern. -/
  | convert (pattern : Text)
  /-- A settings file for a new project, in place of an old one if that is forced. -/
  | init (force : Bool)
  /-- A look at the rules. -/
  | rules (args : RulesArguments)
  /-- A scan. -/
  | scan (args : ScanArguments)
deriving DecidableEq, Repr

namespace Command

/-- The option that every command has. -/
def helpRule : OptionRule :=
  { name := "help" }

/-- The options before the name of a command. -/
def mainRules : List OptionRule :=
  [{ name := "version", letter := some 'V' }, helpRule]

/-- The options that both scanning and looking over rules have. -/
def sharedRules : List OptionRule :=
  [{ name := "config", letter := some 'c', hasValue := true },
   { name := "rules", letter := some 'r', hasValue := true },
   { name := "no-builtin" }, helpRule]

/-- The options of looking over rules. -/
def rulesRules : List OptionRule :=
  { name := "strict" } :: sharedRules

/-- The options of scanning. -/
def scanRules : List OptionRule :=
  [{ name := "format", letter := some 'f', hasValue := true },
   { name := "output", letter := some 'o', hasValue := true },
   { name := "min-confidence", hasValue := true },
   { name := "workers", letter := some 'w', hasValue := true },
   { name := "verbose", letter := some 'v' }, { name := "debug" }] ++ sharedRules

/-- The options of setting up a project. -/
def initRules : List OptionRule :=
  [{ name := "force" }, helpRule]

/-- The whole number that is the value of an option. -/
def wholeNumber? (args : Arguments) (name : String) : Except UsageError (Option Int) :=
  match args.value? name with
  | none => .ok none
  | some value =>
    match Decimal.readInt? value with
    | some n => .ok (some n)
    | none => .error (.notInteger value)

/-- Checks that there are no operands. -/
def expectNone : List Text → Except UsageError Unit
  | [] => .ok ()
  | operands => .error (.tooMany operands)

/-- Reads the words after the name of a command. -/
def readAfter (rules : List OptionRule) (words : List Text)
    (make : Arguments → Except UsageError Command) : Except UsageError Command := do
  let args ← Arguments.read rules true none words
  if args.has "help" then return help
  make args

/-- The scan that arguments ask for. -/
def ofScan (args : Arguments) : Except UsageError Command := do
  if args.operands.isEmpty then throw (.missing "PATHS...")
  let minScore ← wholeNumber? args "min-confidence"
  let workers ← wholeNumber? args "workers"
  return scan {
    paths := args.operands
    config := args.value? "config"
    format := args.value? "format"
    output := args.value? "output"
    rules := (args.values "rules").map .ofText
    withoutBuiltin := args.has "no-builtin"
    minScore
    workers
    verbose := args.has "verbose"
    debug := args.has "debug" }

/-- The look at the rules that arguments ask for. -/
def ofRules (args : Arguments) : Except UsageError Command := do
  expectNone args.operands
  return rules {
    config := args.value? "config"
    rules := (args.values "rules").map .ofText
    withoutBuiltin := args.has "no-builtin"
    strict := args.has "strict" }

/-- The conversion that arguments ask for. -/
def ofConvert (args : Arguments) : Except UsageError Command :=
  match args.operands with
  | [] => .error (.missing "PATTERN")
  | [pattern] => .ok (convert pattern)
  | _ :: more => .error (.tooMany more)

/-- The new project that arguments ask for. -/
def ofInit (args : Arguments) : Except UsageError Command := do
  expectNone args.operands
  return init (args.has "force")

/-- Reads a command line. -/
def read (words : List Text) : Except UsageError Command := do
  let args ← Arguments.read mainRules false none words
  match args.options.head? with
  | some ("version", _) => return version
  | some _ => return help
  | none =>
    match args.operands with
    | [] => throw .noCommand
    | name :: words =>
      if name = "scan".toList then readAfter scanRules words ofScan
      else if name = "rules".toList then readAfter rulesRules words ofRules
      else if name = "convert".toList then readAfter [helpRule] words ofConvert
      else if name = "init".toList then readAfter initRules words ofInit
      else throw (.unknownCommand name)

/-- The paths to scan. -/
def scanned : Command → List Text
  | scan args => args.paths
  | _ => []

/-- The files and folders that a command names. -/
def named : Command → List Path
  | scan args => args.paths.map Path.ofText ++ args.rules ++ (args.config.map Path.ofText).toList
  | rules args => args.rules ++ (args.config.map Path.ofText).toList
  | _ => []

/-- The file that a report is written to. -/
def output? : Command → Option Path
  | scan args => args.output.map Path.ofText
  | _ => none

/-- Whether there is something that can be read at a path as it is written. A slash at its end calls
for a folder. -/
def isPresent (fs : Files) (path : Text) : Bool :=
  let wantsFolder := path.getLast? = some '/' || "/.".toList.isSuffixOf path
  let p := Path.ofText path
  match fs.readBar? p, fs.find? p with
  | none, some t => !path.isEmpty && (t.isFolder || !wantsFolder)
  | _, _ => false

/-- The first path to scan where there is nothing. -/
def absent? (fs : Files) (command : Command) : Option Text :=
  command.scanned.find? fun path => !isPresent fs path

end Command

end SecretScan
