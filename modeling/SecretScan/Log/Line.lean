import SecretScan.Datum.Json
import SecretScan.Datum.Spelling
import SecretScan.Event
import SecretScan.Json.Print

/-!
# Log lines

Something that is told makes a line, if it reaches the level that is asked for: a JSON object for
programs, or for people the level, the event and its fields in the order of their names.
-/

namespace SecretScan

/-- What is asked to be told. -/
structure LogFilter where
  /-- The least level. -/
  least : Level
  /-- Whether lines are in JSON. -/
  json : Bool
deriving DecidableEq, Repr

/-- The filter for a named level. A name that is not known stands for warnings. -/
def LogFilter.ofName (name : Text) (json : Bool) : LogFilter :=
  ⟨(Level.ofName? name).getD .warning, json⟩

/-- Something that is told. -/
structure LogEntry where
  /-- Its level. -/
  level : Level
  /-- What happened. -/
  event : Text
  /-- What there is to know about it. -/
  fields : List (String × Json)

/-- An event as something that is told. -/
def Event.entry (e : Event) : LogEntry :=
  ⟨e.level, e.name.toList, e.fields⟩

namespace LogEntry

/-- The fields that do not stand for the level or the time of the line itself. -/
def ownFields (e : LogEntry) : List (String × Json) :=
  e.fields.filter fun (name, _) => name ≠ "level" && name ≠ "timestamp"

/-- The line for programs. -/
def toJson (e : LogEntry) : Json :=
  .object (e.ownFields ++ [("event", Event.ofText e.event), ("level", .text e.level.name)])

/-- A text with spaces after it up to some width. -/
def padTo (size : Nat) (t : Text) : Text :=
  t ++ List.replicate (size - t.length) ' '

/-- The value of a field. A text with a space in it is put in quotes. -/
def valueOf (value : Json) : Text :=
  match value with
  | .text s => if ' ' ∈ s.toList then Text.quoted s.toList else s.toList
  | value => value.toDatum.spell

/-- A field. -/
def fieldOf (field : String × Json) : Text :=
  ' ' :: field.1.toList ++ '=' :: valueOf field.2

/-- The line for people. -/
def line (e : LogEntry) : Text :=
  let fields := e.ownFields.mergeSort fun a b => decide (a.1 ≤ b.1)
  let level := '[' :: padTo 9 e.level.name.toList ++ [']', ' ']
  if fields.isEmpty then level ++ e.event
  else level ++ padTo 30 e.event ++ fields.flatMap fieldOf

end LogEntry

/-- What is told among several things. -/
def LogFilter.told (f : LogFilter) (entries : List LogEntry) : List LogEntry :=
  entries.filter fun e => e.level.reaches f.least

/-- The lines for several things. -/
def LogFilter.lines (f : LogFilter) (entries : List LogEntry) : List Text :=
  (f.told entries).map fun e => if f.json then e.toJson.compact.toList else e.line

end SecretScan
