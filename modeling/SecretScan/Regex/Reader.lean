import SecretScan.Regex.Syntax

/-!
# Reading position and syntax errors

What the parser of regular expressions carries along: the text that is left, the groups seen so far,
and the flags in force. A pattern that cannot be read is refused with a cause and a place.
-/

namespace SecretScan.Regex

/-- Why a pattern cannot be read. -/
inductive SyntaxCause where
  /-- A delimiter is missing. -/
  | missing (delimiter : Char)
  /-- A parenthesis closes no group. -/
  | unbalanced
  /-- A class is not closed. -/
  | unterminatedClass
  /-- A repetition has nothing before it. -/
  | nothingToRepeat
  /-- A repetition follows another one. -/
  | multipleRepeat
  /-- The bounds of a repetition are in the wrong order. -/
  | repeatOrder
  /-- A bound of a repetition is too big. -/
  | repeatTooBig
  /-- The ends of a range are in the wrong order. -/
  | badRange
  /-- The pattern ends in a backslash. -/
  | trailingBackslash
  /-- An escape has no meaning. -/
  | badEscape (c : Char)
  /-- An escape by number has too few digits. -/
  | incompleteEscape (text : Text)
  /-- An escape by number is beyond the last code point. -/
  | badHexEscape (text : Text)
  /-- The characters after `(?` have no meaning. -/
  | unknownExtension
  /-- A word after `(*` has no meaning. -/
  | unknownVerb
  /-- A group has an empty name. -/
  | missingGroupName
  /-- A group name is no identifier. -/
  | badGroupName
  /-- A back reference stands inside its own group. -/
  | openGroup
  /-- No group has the name of a back reference. -/
  | unknownGroup
  /-- No group has the number of a back reference. -/
  | invalidGroup
  /-- No property has the given name. -/
  | unknownProperty
  /-- A `-` among flags is followed by none. -/
  | noFlagsOff
  /-- A flag is switched on and off at once. -/
  | flagOnAndOff
  /-- A flag is switched off for the whole pattern. -/
  | flagOff
deriving DecidableEq, Repr

/-- The cause in words. -/
def SyntaxCause.message : SyntaxCause → String
  | missing delimiter => s!"missing {delimiter}"
  | unbalanced => "unbalanced parenthesis"
  | unterminatedClass => "unterminated character set"
  | nothingToRepeat => "nothing to repeat"
  | multipleRepeat => "multiple repeat"
  | repeatOrder => "min repeat greater than max repeat"
  | repeatTooBig => "repeat count too big"
  | badRange => "bad character range"
  | trailingBackslash => "bad escape (end of pattern)"
  | badEscape c => s!"bad escape \\{c}"
  | incompleteEscape text => s!"incomplete escape \\{String.ofList text}"
  | badHexEscape text => s!"bad hex escape \\{String.ofList text}"
  | unknownExtension => "unknown extension"
  | unknownVerb => "unknown verb"
  | missingGroupName => "missing group name"
  | badGroupName => "bad character in group name"
  | openGroup => "cannot refer to an open group"
  | unknownGroup => "unknown group"
  | invalidGroup => "invalid group reference"
  | unknownProperty => "unknown property"
  | noFlagsOff => "bad inline flags: no flags after '-'"
  | flagOnAndOff => "bad inline flags: flag turned on and off"
  | flagOff => "bad inline flags: cannot turn flags off"

/-- A syntax error: its cause and the offset at which it was noticed. -/
structure SyntaxError where
  /-- Why the pattern was refused. -/
  cause : SyntaxCause
  /-- The offset in the pattern. -/
  position : Nat
deriving DecidableEq, Repr

/-- The error in words. Where the pattern has several lines, the line and column are told too. -/
def SyntaxError.message (e : SyntaxError) (pattern : Text) : String :=
  let place := s!"{e.cause.message} at position {e.position}"
  if '\n' ∈ pattern then
    let before := pattern.take e.position
    let line := before.count '\n' + 1
    let column := (before.reverse.takeWhile (· ≠ '\n')).length + 1
    s!"{place} (line {line}, column {column})"
  else place

/-- The flags that change how a pattern is read. -/
structure Flags where
  /-- Letters match without regard to case. -/
  ignoreCase : Bool
  /-- `^` and `$` match at every line. -/
  multiline : Bool
  /-- `.` matches newlines too. -/
  dotAll : Bool
deriving DecidableEq, Repr

/-- The flags that hold in at least one of two sets. -/
def Flags.union (a b : Flags) : Flags :=
  ⟨a.ignoreCase || b.ignoreCase, a.multiline || b.multiline, a.dotAll || b.dotAll⟩

/-- Why reading stops early. -/
inductive Interrupt where
  /-- The pattern is malformed. -/
  | refused (e : SyntaxError)
  /-- A flag was found that applies to the whole pattern, also to what has been read already. -/
  | flagsFound (flags : Flags)

/-- The state of the parser. -/
structure Reader where
  /-- What is left of the pattern. -/
  rest : Text
  /-- The offset of the rest. -/
  pos : Nat
  /-- How many groups have been opened. -/
  groupCount : Nat
  /-- The numbers of the named groups. -/
  names : List (Text × Nat)
  /-- The groups that are open, innermost first. -/
  openGroups : List Nat
  /-- The back references read so far, with the offsets to report. -/
  refs : List (GroupRef × Nat)
  /-- The flags in force. -/
  flags : Flags

namespace Reader

/-- The state before the first character of a pattern. -/
def start (pattern : Text) (flags : Flags) : Reader :=
  ⟨pattern, 0, 0, [], [], [], flags⟩

/-- Refuses the pattern at the present offset. -/
def refuse {α : Type} (r : Reader) (cause : SyntaxCause) : Except Interrupt α :=
  .error (.refused ⟨cause, r.pos⟩)

/-- Skips `n` characters. -/
def advance (r : Reader) (n : Nat) : Reader :=
  { r with rest := r.rest.drop n, pos := r.pos + n }

/-- Skips the text `t` if the rest begins with it. -/
def accept? (r : Reader) (t : Text) : Option Reader :=
  if t.isPrefixOf r.rest then some (r.advance t.length) else none

/-- Skips the delimiter `c`, which must come next. -/
def expect (r : Reader) (c : Char) : Except Interrupt Reader :=
  match r.accept? [c] with
  | some r => .ok r
  | none => r.refuse (.missing c)

/-- Skips a `^` that comes next, and tells whether there was one. -/
def negation (r : Reader) : Bool × Reader :=
  match r.accept? ['^'] with
  | some r => (true, r)
  | none => (false, r)

/-- The characters in front that satisfy `p`, and the state behind them. -/
def span (r : Reader) (p : Char → Bool) : Text × Reader :=
  let t := r.rest.takeWhile p
  (t, r.advance t.length)

/-- Opens a group and gives its number. A name that is known already means the same group again. -/
def openGroup (r : Reader) (name : Option Text) : Nat × Reader :=
  match name.bind fun name => r.names.lookup name with
  | some group => (group, { r with openGroups := group :: r.openGroups })
  | none =>
    let group := r.groupCount + 1
    let names := match name with
      | some name => (name, group) :: r.names
      | none => r.names
    (group, { r with groupCount := group, names, openGroups := group :: r.openGroups })

/-- Closes the innermost group. -/
def closeGroup (r : Reader) : Reader :=
  { r with openGroups := r.openGroups.tail }

/-- Whether `ref` means a group that is still open. -/
def isOpen (r : Reader) : GroupRef → Bool
  | .number n => r.openGroups.contains n
  | .name name => ((r.names.lookup name).map r.openGroups.contains).getD false

end Reader

end SecretScan.Regex
