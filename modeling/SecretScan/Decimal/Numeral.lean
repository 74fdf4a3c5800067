import SecretScan.Decimal.Shortest
import SecretScan.Text.DecimalDigit
import SecretScan.Text.Blank

/-!
# Reading numbers

Numbers come as text from rule files, settings and the environment. A numeral may have blanks
around it and single underscores between its digits, and its digits may be those of any script.
-/

namespace SecretScan.Decimal

/-- The value of the digits `ds`. -/
def natOfDigits (ds : List Nat) : Nat :=
  ds.foldl (fun n d => 10 * n + d) 0

/-- Whether `c` is dropped at the ends of a numeral. The information separators, which are blank
elsewhere, are not. -/
def isNumeralBlank (c : Char) : Bool :=
  Text.isBlank c && !(0x1C ≤ c.toNat && c.toNat ≤ 0x1F)

/-- The characters of a numeral: blanks at the ends dropped, digits of any script as ASCII
digits. -/
def plain (t : Text) : Text :=
  (t.trimWhile isNumeralBlank).map fun c =>
    match Text.decimalValue? c with
    | some d => Char.ofNat (d + 48)
    | none => c

/-- The value of an ASCII digit. -/
def digit? (c : Char) : Option Nat :=
  if c.isDigit then some (c.toNat - 48) else none

/-- The digits at the front of `t`, single underscores between digits left out, and the rest. -/
def spanDigits : Text → List Nat × Text
  | [] => ([], [])
  | '_' :: c :: t =>
    match digit? c with
    | some d => let (ds, rest) := spanDigits t; (d :: ds, rest)
    | none => ([], '_' :: c :: t)
  | c :: t =>
    match digit? c with
    | some d => let (ds, rest) := spanDigits t; (d :: ds, rest)
    | none => ([], c :: t)

/-- A run of digits at the front of `t`; it does not begin with an underscore. -/
def digitRun (t : Text) : List Nat × Text :=
  match t with
  | '_' :: _ => ([], t)
  | _ => spanDigits t

/-- A sign at the front of `t`. -/
def spanSign : Text → Bool × Text
  | '-' :: t => (true, t)
  | '+' :: t => (false, t)
  | t => (false, t)

/-- The most digits that a whole number may have as a text. -/
def maxIntDigits : Nat := 4300

/-- What is told of a whole number with too many digits. When it was read, their number is known. -/
def tooManyDigits (count : Option Nat) : String :=
  let found := match count with
    | some n => s!": value has {n} digits"
    | none => ""
  s!"Exceeds the limit ({maxIntDigits} digits) for integer string conversion{found}; "
    ++ "use sys.set_int_max_str_digits() to increase the limit"

/-- Why a text is no whole number. -/
inductive NumeralFault where
  /-- It is not written like one. -/
  | malformed
  /-- It has too many digits. -/
  | tooLong (count : Nat)
deriving DecidableEq, Repr

/-- Reads a whole number. Digits are counted before anything else is looked at. -/
def readInt (t : Text) : Except NumeralFault Int :=
  let (negative, t) := spanSign (plain t)
  let (ds, rest) := digitRun t
  if maxIntDigits < ds.length && rest.head? ≠ some '_' then .error (.tooLong ds.length)
  else if ds.isEmpty || !rest.isEmpty then .error .malformed
  else .ok (if negative then -(natOfDigits ds : Int) else natOfDigits ds)

/-- Reads a whole number, if the text is one. -/
def readInt? (t : Text) : Option Int :=
  (readInt t).toOption

/-- The value of a digit in base `radix`, where letters go on after 9. -/
def digitIn? (radix : Nat) (c : Char) : Option Nat :=
  let value :=
    if c.isDigit then some (c.toNat - 48)
    else if c.isAlpha then some (c.toLower.toNat - 87)
    else none
  value.filter (· < radix)

/-- A mark such as `0x` at the front of a numeral, which says what its base is. -/
def dropRadixMark (radix : Nat) : Text → Text
  | '0' :: c :: t =>
    if (radix, c.toLower) ∈ [(2, 'b'), (8, 'o'), (16, 'x')] then t else '0' :: c :: t
  | t => t

/-- Reads a whole number in base `radix`. -/
def readIntIn? (radix : Nat) (t : Text) : Option Int :=
  let (negative, t) := spanSign (plain t)
  let t := dropRadixMark radix t
  if t.isEmpty then none
  else (t.mapM (digitIn? radix)).map fun ds =>
    let n : Int := (ds.foldl (fun n d => radix * n + d) 0 : Nat)
    if negative then -n else n

/-- The double nearest to `units · 10 ^ power`. Far outside the range of doubles the answer is known
without computing the power. -/
def toFloat (units : Nat) (power : Int) : Float :=
  let size := (digits units).length + power
  if units = 0 || size < -400 then 0.0
  else if 400 < size then 1.0 / 0.0
  else Float.ofScientific units (power < 0) power.natAbs

/-- The exponent `e±digits` at the front of `t`; without one the exponent is zero. -/
def readExponent? : Text → Option Int
  | [] => some 0
  | c :: t =>
    if c = 'e' || c = 'E' then
      let (negative, t) := spanSign t
      match digitRun t with
      | (ds@(_ :: _), []) =>
        let n : Int := natOfDigits ds
        some (if negative then -n else n)
      | _ => none
    else none

/-- Reads a number without sign: digits with an optional point and exponent. -/
def readMagnitude? (t : Text) : Option Float :=
  let (whole, t) := digitRun t
  let (fraction, t) := match t with
    | '.' :: t => digitRun t
    | t => ([], t)
  if whole.isEmpty && fraction.isEmpty then none
  else (readExponent? t).map fun e => toFloat (natOfDigits (whole ++ fraction)) (e - fraction.length)

/-- Reads a floating-point number; infinities and not-a-number are written as words in any case. -/
def readFloat? (t : Text) : Option Float :=
  let (negative, t) := spanSign (plain t)
  let word := t.map Char.toLower
  let magnitude :=
    if word = "inf".toList || word = "infinity".toList then some (1.0 / 0.0)
    else if word = "nan".toList then some (0.0 / 0.0)
    else readMagnitude? t
  if negative then magnitude.map fun x => -x else magnitude

/-- `x` rounded to `places` decimal places, as a number again. -/
def roundTo (x : Float) (places : Nat) : Float :=
  match Binary.ofFloat x with
  | .finite negative mantissa exponent =>
    let y := toFloat (unitsOf mantissa exponent places) (-(places : Int))
    if negative then -y else y
  | _ => x

end SecretScan.Decimal
