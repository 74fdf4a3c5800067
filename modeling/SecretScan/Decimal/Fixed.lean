import SecretScan.Decimal.Binary

/-!
# Fixed notation

A number with a given count of decimal places: the exact value is rounded once, and a value half
way between two candidates goes to the one whose last digit is even.
-/

namespace SecretScan.Decimal

/-- `units` with the decimal point `places` digits from the right. -/
def pointed (units places : Nat) : Text :=
  let ds := digits units
  let ds := List.replicate (places + 1 - ds.length) '0' ++ ds
  let whole := ds.take (ds.length - places)
  if places = 0 then whole else whole ++ '.' :: ds.drop (ds.length - places)

/-- The number of units of `10 ^ -places` nearest to `mantissa · 2 ^ exponent`. -/
def unitsOf (mantissa : Nat) (exponent : Int) (places : Nat) : Nat :=
  let (num, den) := scaled mantissa exponent places
  roundHalfEven num den

/-- Puts a minus sign in front of the text of a negative number. -/
def signed (negative : Bool) (t : Text) : Text :=
  if negative then '-' :: t else t

/-- `x` with `places` decimal places. The sign of zero is kept. -/
def fixed (x : Float) (places : Nat) : String :=
  String.ofList <|
    match Binary.ofFloat x with
    | .nan => "nan".toList
    | .infinite negative => signed negative "inf".toList
    | .finite negative mantissa exponent =>
      signed negative (pointed (unitsOf mantissa exponent places) places)

end SecretScan.Decimal
