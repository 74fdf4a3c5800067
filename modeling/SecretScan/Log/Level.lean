import SecretScan.Text.Basic

/-!
# Levels of importance

What is told has a level, and one can ask to be told only what reaches some level. Levels are asked
for by name, in any case. A name that means nothing stands for a usual level; two names mean
something else and are refused.
-/

namespace SecretScan

/-- How important something is. -/
inductive Level where
  /-- For those who look into the details. -/
  | debug
  /-- For those who want to follow along. -/
  | info
  /-- For everyone. -/
  | warning
  /-- Something failed. -/
  | error
  /-- Nothing works any more. -/
  | critical
deriving DecidableEq, Repr

/-- The capital form of a letter, as far as the names of levels are concerned. Two letters beyond
ASCII have a capital in ASCII, and two ligatures have two of them. -/
def capital (c : Char) : Text :=
  if c = 'ı' then ['I']
  else if c = 'ſ' then ['S']
  else if c = 'ﬅ' || c = 'ﬆ' then ['S', 'T']
  else [c.toUpper]

/-- A text in capitals. -/
def capitals (t : Text) : Text :=
  t.flatMap capital

namespace Level

/-- The level as it is written. -/
def name : Level → String
  | debug => "debug"
  | info => "info"
  | warning => "warning"
  | error => "error"
  | critical => "critical"

/-- How much a level counts. -/
def weight : Level → Nat
  | debug => 10
  | info => 20
  | warning => 30
  | error => 40
  | critical => 50

/-- The names of levels in capitals. Whoever sets no level is told everything. -/
def names : List (Text × Level) :=
  [("NOTSET".toList, debug), ("DEBUG".toList, debug), ("INFO".toList, info),
   ("WARN".toList, warning), ("WARNING".toList, warning), ("ERROR".toList, error),
   ("CRITICAL".toList, critical), ("FATAL".toList, critical)]

/-- The level with a name. -/
def ofName? (t : Text) : Option Level :=
  names.lookup (capitals t)

/-- The names in capitals that stand for something else, with what is said when one of them is taken
for a level. -/
def otherNames : List (Text × String) :=
  [("BASIC_FORMAT".toList, "'%(levelname)s:%(name)s:%(message)s'"),
   ("_STYLES".toList, "unhashable type: 'dict'")]

/-- What is said when a name is taken for a level that stands for something else. -/
def other? (t : Text) : Option String :=
  otherNames.lookup (capitals t)

/-- Whether the level reaches another one. -/
def reaches (level least : Level) : Bool :=
  least.weight ≤ level.weight

end Level

end SecretScan
