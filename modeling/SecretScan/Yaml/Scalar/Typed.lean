import SecretScan.Datum.Number
import SecretScan.Text.Lower
import SecretScan.Yaml.Binary
import SecretScan.Yaml.Fault
import SecretScan.Yaml.Tag

/-!
# Typed scalars

The value that the text of a scalar stands for is told by its type. Whole numbers are written in
decimal notation, in the notations with a mark for the base, or in base sixty with colons.
-/

namespace SecretScan.Yaml

/-- The truth value of a word. -/
def truthOf (t : Text) : Except Fault Datum :=
  let word := Text.lower t
  if ["yes".toList, "true".toList, "on".toList].contains word then .ok (.bool true)
  else if ["no".toList, "false".toList, "off".toList].contains word then .ok (.bool false)
  else .error (.badTruth word)

/-- A numeral without underscores, cut into its sign and the rest. -/
def signed (t : Text) : Except Fault (Bool × Text) :=
  match t.filter (· ≠ '_') with
  | [] => .error .noDigits
  | '-' :: t => .ok (true, t)
  | '+' :: t => .ok (false, t)
  | t => .ok (false, t)

/-- Adds up the parts of a number in base sixty. -/
def sexagesimal (parts : List Int) : Int :=
  parts.foldl (fun n part => 60 * n + part) 0

/-- A whole number in decimal notation. -/
def decimalOf (t : Text) : Except Fault Int :=
  (Decimal.readInt t).mapError fun
    | .tooLong count => .tooManyDigits count
    | .malformed => .badInteger 10 t

/-- A whole number in base `radix`, of which `t` holds the digits. -/
def radixOf (radix : Nat) (t : Text) : Except Fault Int :=
  match Decimal.readIntIn? radix t with
  | some n => .ok n
  | none => .error (.badInteger radix t)

/-- A whole number without sign. -/
def magnitudeOf (t : Text) : Except Fault Int :=
  match t with
  | [] => .error .noDigits
  | ['0'] => .ok 0
  | '0' :: 'b' :: t => radixOf 2 t
  | '0' :: 'x' :: t => radixOf 16 t
  | '0' :: _ => radixOf 8 t
  | t =>
    if ':' ∈ t then ((Text.splitOn ':' t).mapM decimalOf).map sexagesimal
    else decimalOf t

/-- The whole number of a numeral. -/
def intOf (t : Text) : Except Fault Datum := do
  let (negative, t) ← signed t
  let n ← magnitudeOf t
  return .int (if negative then -n else n)

/-- A floating-point number in decimal notation. -/
def fractionOf (t : Text) : Except Fault Float :=
  match Decimal.readFloat? t with
  | some x => .ok x
  | none => .error (.badNumber t)

/-- Adds up the parts of a number in base sixty, the last part first. -/
def sexagesimalFloat (parts : List Float) : Float :=
  (parts.reverse.foldl (fun (sum, base) part => (sum + part * base, base * 60.0))
    ((0.0, 1.0) : Float × Float)).1

/-- The floating-point number of a numeral. -/
def floatOf (t : Text) : Except Fault Datum := do
  let (negative, t) ← signed (Text.lower t)
  if t = ".nan".toList then return .float (0.0 / 0.0)
  let x ←
    if t = ".inf".toList then pure (1.0 / 0.0)
    else if ':' ∈ t then ((Text.splitOn ':' t).mapM fractionOf).map sexagesimalFloat
    else fractionOf t
  return .float (if negative then -x else x)

/-- Whether a numeral is the word for not-a-number. Other numerals can be not-a-number too, but each
of them is one of its own. -/
def isNanWord (t : Text) : Bool :=
  (signed (Text.lower t)).toOption.any fun (_, t) => t = ".nan".toList

/-- The value of a scalar type that a text stands for. -/
def scalarValue (tag : Tag) (t : Text) : Except Fault Datum :=
  match tag with
  | .null => .ok .null
  | .bool => truthOf t
  | .int => intOf t
  | .float => floatOf t
  | .str => .ok (.text t)
  | .binary =>
    match Base64.decode? t with
    | some bytes => .ok (.bytes bytes)
    | none => .error .malformed
  | .timestamp =>
    match Stamp.read? t with
    | some stamp => stamp.value.mapError .noSuchTime
    | none => .error .badTime
  | _ => .error .malformed

/-- Whether values of the type are made of other values. -/
def Tag.isCollection : Tag → Bool
  | .omap | .pairs | .set | .seq | .map => true
  | _ => false

end SecretScan.Yaml
