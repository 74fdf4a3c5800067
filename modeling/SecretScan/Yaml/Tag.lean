import SecretScan.Text.Shape

/-!
# Tags

The tag of a node tells what type of value it stands for. A plain scalar without a tag gets the one
that its form suggests, such as a number that of numbers; all other scalars without a tag are text.
-/

namespace SecretScan.Yaml

/-- The type of a node. -/
inductive Tag where
  /-- No value. -/
  | null
  /-- A truth value. -/
  | bool
  /-- A whole number. -/
  | int
  /-- A floating-point number. -/
  | float
  /-- Raw bytes. -/
  | binary
  /-- A date or a time. -/
  | timestamp
  /-- A list of pairs with distinct keys. -/
  | omap
  /-- A list of pairs. -/
  | pairs
  /-- A set. -/
  | set
  /-- Text. -/
  | str
  /-- A list. -/
  | seq
  /-- A mapping. -/
  | map
  /-- The key of mappings to merge. -/
  | merge
  /-- The key of a default value. -/
  | value
  /-- A type that is not known. -/
  | unknown
deriving DecidableEq, Repr

namespace Form

open Shape

/-- A decimal digit. -/
def digit : Shape := one Char.isDigit

/-- A decimal digit or an underscore. -/
def isDigitOrLine (c : Char) : Bool := c.isDigit || c = '_'

/-- An optional sign. -/
def sign : Shape := upTo (oneOf "+-") 1

/-- Parts of a number in base sixty after its first one. -/
def sixtieths : Shape :=
  let part := seq [exactly ":", upTo (oneOf "012345") 1, digit]
  seq [part, repeated part]

/-- An optional exponent; its sign is not optional. -/
def exponent : Shape :=
  upTo (seq [oneOf "eE", oneOf "+-", Shape.some Char.isDigit]) 1

/-- A whole number: binary, octal, decimal, hexadecimal or in base sixty. -/
def wholeNumber : Shape :=
  let decimal := seq [oneOf "123456789", many isDigitOrLine]
  seq [sign, anyOf [
    seq [exactly "0b", Shape.some (· ∈ "01_".toList)],
    seq [exactly "0", Shape.some (· ∈ "01234567_".toList)],
    exactly "0",
    decimal,
    seq [exactly "0x", Shape.some (· ∈ "0123456789abcdefABCDEF_".toList)],
    seq [decimal, sixtieths]]]

/-- A number with a point. -/
def pointNumber : Shape :=
  let whole := seq [digit, many isDigitOrLine]
  anyOf [
    seq [sign, whole, exactly ".", many isDigitOrLine, exponent],
    seq [exactly ".", whole, exponent],
    seq [sign, whole, sixtieths, exactly ".", many isDigitOrLine],
    seq [sign, anyOf [exactly ".inf", exactly ".Inf", exactly ".INF"]],
    anyOf [exactly ".nan", exactly ".NaN", exactly ".NAN"]]

/-- A date with two digits for month and day, or a date and a time. -/
def time : Shape :=
  let two := exactCount 2 Char.isDigit
  let oneOrTwo := seq [digit, upTo digit 1]
  let blank (c : Char) := c = ' ' || c = '\t'
  let zone := anyOf [exactly "Z", seq [oneOf "+-", oneOrTwo, upTo (seq [exactly ":", two]) 1]]
  let year := exactCount 4 Char.isDigit
  anyOf [
    seq [year, exactly "-", two, exactly "-", two],
    seq [year, exactly "-", oneOrTwo, exactly "-", oneOrTwo, anyOf [oneOf "Tt", Shape.some blank],
      oneOrTwo, exactly ":", two, exactly ":", two,
      upTo (seq [exactly ".", many Char.isDigit]) 1, upTo (seq [many blank, zone]) 1]]

/-- One of several texts. -/
def anyExactly (ws : List String) : Shape :=
  anyOf (ws.map exactly)

end Form

namespace Tag

/-- What the names of the known types begin with. -/
def namePrefix : String := "tag:yaml.org,2002:"

/-- The known types by the ends of their names. -/
def known : List (String × Tag) :=
  [("null", null), ("bool", bool), ("int", int), ("float", float), ("binary", binary),
   ("timestamp", timestamp), ("omap", omap), ("pairs", pairs), ("set", set), ("str", str),
   ("seq", seq), ("map", map), ("merge", merge), ("value", value)]

/-- The type with a name. -/
def ofName (name : Text) : Tag :=
  match known.find? fun (ending, _) => (namePrefix ++ ending).toList = name with
  | some (_, tag) => tag
  | none => unknown

/-- The forms that suggest a type. -/
def forms : List (Tag × Shape) :=
  [(bool, Form.anyExactly ["yes", "Yes", "YES", "no", "No", "NO", "true", "True", "TRUE", "false",
      "False", "FALSE", "on", "On", "ON", "off", "Off", "OFF"]),
   (float, Form.pointNumber), (int, Form.wholeNumber), (merge, Shape.exactly "<<"),
   (null, Form.anyExactly ["~", "null", "Null", "NULL"]), (timestamp, Form.time),
   (value, Shape.exactly "="),
   (unknown, Form.anyExactly ["!", "&", "*"])]

/-- The type that the form of a plain scalar suggests. -/
def ofPlain (t : Text) : Tag :=
  if t.isEmpty then null
  else
    match forms.find? fun (_, form) => Shape.begins (Shape.seq [form, Shape.lastLineEnd]) t with
    | some (tag, _) => tag
    | none => str

end Tag

end SecretScan.Yaml
