import SecretScan.Decimal.Fixed

/-!
# Shortest notation

The text of a floating-point number as a value: the fewest significant digits that read back as the
same number, and of those the ones nearest to it.

A decimal reads back as the number when it lies in the interval of reals that round to it. The
interval reaches half way to the neighbours on both sides and contains its ends exactly if the
mantissa is even. On the grid of decimals with a given number of digits, only the two neighbours of
the value have to be tested: if any point of the grid lies in the interval, one of them does.
-/

namespace SecretScan.Decimal

/-- A value and the interval of reals that round to it, as numerators over one denominator. -/
structure Interval where
  /-- The lower end. -/
  low : Nat
  /-- The value itself. -/
  value : Nat
  /-- The upper end. -/
  high : Nat
  /-- The common denominator. -/
  den : Nat
  /-- Whether the ends belong to the interval. -/
  closed : Bool

/-- The interval of the reals that round to `mantissa · 2 ^ exponent`, which is not zero. Below a
power of two the neighbour is only half as far away. -/
def Interval.ofBinary (mantissa : Nat) (exponent : Int) : Interval :=
  let atPower := mantissa = twos 52 && -1074 < exponent
  let (num, den) := scaled 1 (exponent - 2) 0
  { low := (4 * mantissa - (if atPower then 1 else 2)) * num
    value := 4 * mantissa * num
    high := (4 * mantissa + 2) * num
    den
    closed := mantissa % 2 = 0 }

/-- Whether `units · 10 ^ power` rounds to the value. -/
def Interval.contains (i : Interval) (units : Nat) (power : Int) : Bool :=
  let point := units * tens power * i.den
  let scale := tens (-power)
  if i.closed then i.low * scale ≤ point && point ≤ i.high * scale
  else i.low * scale < point && point < i.high * scale

/-- The multiple of `10 ^ power` in the interval that is nearest to the value; of two nearest ones,
the even one. -/
def Interval.nearest? (i : Interval) (power : Int) : Option Nat :=
  let num := i.value * tens (-power)
  let den := i.den * tens power
  let below := num / den
  let nearer := roundHalfEven num den
  let farther := if nearer = below then below + 1 else below
  if i.contains nearer power then some nearer
  else if i.contains farther power then some farther
  else none

/-- The position of the first digit of `num / den`: the largest `k` with `10 ^ k ≤ num / den`, found
by trying downwards from `k`. -/
def leadingPower (num den : Nat) : Nat → Int → Int
  | 0, k => k
  | n + 1, k =>
    if den * tens k ≤ num * tens (-k) then k else leadingPower num den n (k - 1)

/-- A decimal number `units · 10 ^ power`. -/
structure Scientific where
  /-- The digits as one whole number. -/
  units : Nat
  /-- The power of ten of the last digit. -/
  power : Int
deriving DecidableEq, Repr

/-- Tries one, two, … digits; `power` is the grid of the first attempt. -/
def Interval.search (i : Interval) : Nat → Int → Scientific
  | 0, power => ⟨(i.nearest? power).getD 0, power⟩
  | n + 1, power =>
    match i.nearest? power with
    | some units => ⟨units, power⟩
    | none => i.search n (power - 1)

/-- The shortest decimal that reads back as `mantissa · 2 ^ exponent`. Seventeen digits always
suffice. -/
def shortestDecimal (mantissa : Nat) (exponent : Int) : Scientific :=
  if mantissa = 0 then ⟨0, 0⟩
  else
    let i := Interval.ofBinary mantissa exponent
    i.search 17 (leadingPower i.value i.den 700 310)

/-- The significant digits of a decimal, and the number of them that stand before the point. -/
def Scientific.significant (d : Scientific) : Text × Int :=
  let ds := digits d.units
  let trimmed := (ds.reverse.dropWhile (· = '0')).reverse
  (if trimmed.isEmpty then ['0'] else trimmed, if d.units = 0 then 1 else ds.length + d.power)

/-- Digits in positional or scientific notation. A number of at least `10 ^ 16`, or below `10 ^ -4`,
is written with an exponent of at least two digits; any other has a point and at least one digit
after it. -/
def layout (ds : Text) (point : Int) : Text :=
  if point ≤ -4 || 16 < point then
    let exponent := point - 1
    let head := ds.take 1 ++ (if 1 < ds.length then '.' :: ds.drop 1 else [])
    let magnitude := digits exponent.natAbs
    head ++ 'e' :: (if exponent < 0 then '-' else '+')
      :: (List.replicate (2 - magnitude.length) '0' ++ magnitude)
  else if point ≤ 0 then
    '0' :: '.' :: (List.replicate (-point).toNat '0' ++ ds)
  else
    let n := point.toNat
    let whole := ds.take n ++ List.replicate (n - ds.length) '0'
    let fraction := ds.drop n
    whole ++ '.' :: (if fraction.isEmpty then ['0'] else fraction)

/-- How infinities and not-a-number are written. -/
structure SpecialNames where
  /-- The text of the positive infinity. -/
  infinity : String
  /-- The text of not-a-number. -/
  nan : String

/-- `x` in shortest notation. -/
def shortestWith (names : SpecialNames) (x : Float) : String :=
  String.ofList <|
    match Binary.ofFloat x with
    | .nan => names.nan.toList
    | .infinite negative => signed negative names.infinity.toList
    | .finite negative mantissa exponent =>
      let (ds, point) := (shortestDecimal mantissa exponent).significant
      signed negative (layout ds point)

/-- `x` as the text of a value. -/
def shortest (x : Float) : String :=
  shortestWith ⟨"inf", "nan"⟩ x

end SecretScan.Decimal
