import SecretScan.Text.Basic

/-!
# Reading a command line

The words of a command line are options, values of options and operands. A long option may have its
value after an equals sign; short options may stand in one word, with the value of the last one
following at once. A double dash ends the options.
-/

namespace SecretScan

/-- An option that a command knows. -/
structure OptionRule where
  /-- Its name. -/
  name : String
  /-- Its letter, if it has one. -/
  letter : Option Char := none
  /-- Whether it has a value. -/
  hasValue : Bool := false

/-- Why a command line makes no sense. -/
inductive UsageError where
  /-- An option is not known. -/
  | unknownOption (name : Text)
  /-- An option lacks its value. -/
  | noValue (name : String)
  /-- An option is given a value that it has not. -/
  | needlessValue (name : String)
  /-- A value should be a whole number. -/
  | notInteger (value : Text)
  /-- An operand is missing. -/
  | missing (name : String)
  /-- There are more operands than the command takes. -/
  | tooMany (operands : List Text)
  /-- There is nothing at a path. -/
  | noSuchPath (path : Text)
  /-- No command is named. -/
  | noCommand
  /-- A command is not known. -/
  | unknownCommand (name : Text)
deriving DecidableEq, Repr

/-- The error in words. -/
def UsageError.message : UsageError → String
  | unknownOption name => s!"No such option: {String.ofList name}"
  | noValue name => s!"Option '--{name}' requires an argument."
  | needlessValue name => s!"Option '--{name}' does not take a value."
  | notInteger value => s!"'{String.ofList value}' is not a valid integer."
  | missing name => s!"Missing argument '{name}'."
  | tooMany operands =>
    let all := String.ofList (Text.join ' ' operands)
    s!"Got unexpected extra arguments ({all})"
  | noSuchPath path => s!"Path '{String.ofList path}' does not exist."
  | noCommand => "Missing command."
  | unknownCommand name => s!"No such command '{String.ofList name}'."

/-- What a command line holds. -/
structure Arguments where
  /-- The options with their values, in the order in which they are given. -/
  options : List (String × Text)
  /-- The operands. -/
  operands : List Text
deriving DecidableEq, Repr

namespace Arguments

/-- Whether an option is given. -/
def has (args : Arguments) (name : String) : Bool :=
  args.options.any fun (option, _) => option = name

/-- The values of an option. -/
def values (args : Arguments) (name : String) : List Text :=
  args.options.filterMap fun (option, value) => if option = name then some value else none

/-- The value of an option; the last one counts. -/
def value? (args : Arguments) (name : String) : Option Text :=
  (args.values name).getLast?

/-- Options that are given in one word, and the option whose value is the next word. -/
abbrev Given := List (String × Text) × Option String

/-- The options in a word of letters. -/
def ofLetters (rules : List OptionRule) : Text → Except UsageError Given
  | [] => .ok ([], none)
  | letter :: rest =>
    match rules.find? fun rule => rule.letter = some letter with
    | none => .error (.unknownOption ['-', letter])
    | some rule =>
      if rule.hasValue then
        .ok (if rest.isEmpty then ([], some rule.name) else ([(rule.name, rest)], none))
      else (ofLetters rules rest).map fun (options, open?) => ((rule.name, []) :: options, open?)

/-- The option that a word names in full, with the value in the word. -/
def ofName? (rules : List OptionRule) (word : Text) : Option (OptionRule × Option Text) :=
  let name := Text.before word '='
  let value := if '=' ∈ word then some (word.drop (name.length + 1)) else none
  (rules.find? fun rule => "--".toList ++ rule.name.toList = name).map fun rule => (rule, value)

/-- The options in a word that begins with a dash. -/
def ofWord (rules : List OptionRule) (word : Text) : Except UsageError Given :=
  match ofName? rules word with
  | some (rule, value) =>
    match rule.hasValue, value with
    | true, some value => .ok ([(rule.name, value)], none)
    | true, none => .ok ([], some rule.name)
    | false, some _ => .error (.needlessValue rule.name)
    | false, none => .ok ([(rule.name, [])], none)
  | none =>
    if "--".toList.isPrefixOf word then .error (.unknownOption (Text.before word '='))
    else ofLetters rules (word.drop 1)

/-- Whether a word holds options. -/
def isOption (word : Text) : Bool :=
  word.head? = some '-' && 1 < word.length

/-- Reads the words of a command line. The word after an option without its value is that value.
Unless options may be `mixed` with operands, the first operand ends them. -/
def read (rules : List OptionRule) (mixed : Bool) (awaiting : Option String) :
    List Text → Except UsageError Arguments
  | [] =>
    match awaiting with
    | none => .ok ⟨[], []⟩
    | some name => .error (.noValue name)
  | word :: words =>
    match awaiting with
    | some name => do
      let rest ← read rules mixed none words
      return { rest with options := (name, word) :: rest.options }
    | none =>
      if word = "--".toList then .ok ⟨[], words⟩
      else if isOption word then do
        let (options, awaiting) ← ofWord rules word
        let rest ← read rules mixed awaiting words
        return { rest with options := options ++ rest.options }
      else if mixed then do
        let rest ← read rules mixed none words
        return { rest with operands := word :: rest.operands }
      else .ok ⟨[], word :: words⟩

end Arguments

end SecretScan
