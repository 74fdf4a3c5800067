import SecretScan.Datum.Basic
import SecretScan.Decimal.Numeral

/-!
# Numbers from data values

Where a number is expected, a truth value counts as 0 or 1, a text is read as a numeral, and a
floating-point number is cut off to a whole one. Other values are of the wrong type.
-/

namespace SecretScan

/-- Why a value cannot be taken as what it should be. -/
inductive Misfit where
  /-- It is of the wrong type. -/
  | wrongType
  /-- It cannot be read. -/
  | wrongValue
  /-- It is an infinity where a whole number is expected. -/
  | infinite
  /-- It is a whole number beyond the floating-point range. -/
  | tooLarge
deriving DecidableEq, Repr

namespace Decimal

/-- The whole part of a floating-point number. -/
def truncate (x : Float) : Except Misfit Int :=
  match Binary.ofFloat x with
  | .nan => .error .wrongValue
  | .infinite _ => .error .infinite
  | .finite negative mantissa exponent =>
    let n : Int := (mantissa * twos exponent / twos (-exponent) : Nat)
    .ok (if negative then -n else n)

/-- The floating-point number nearest to a whole one. -/
def ofInt (n : Int) : Except Misfit Float :=
  let x := toFloat n.natAbs 0
  if x.isInf then .error .tooLarge else .ok (if n < 0 then -x else x)

end Decimal

namespace Datum

/-- Bytes as text, if they are ASCII. -/
def asciiText? (bs : Bytes) : Option Text :=
  if bs.all (· < 0x80) then some (bs.map fun b => Char.ofNat b.toNat) else none

/-- An optional number as the outcome of reading it. -/
def readable {α : Type} : Option α → Except Misfit α
  | some a => .ok a
  | none => .error .wrongValue

/-- The value as a whole number. -/
def toInt : Datum → Except Misfit Int
  | bool b => .ok (if b then 1 else 0)
  | int n => .ok n
  | float x => Decimal.truncate x
  | text t => readable (Decimal.readInt? t)
  | bytes bs => readable ((asciiText? bs).bind Decimal.readInt?)
  | _ => .error .wrongType

/-- The value as a floating-point number. -/
def toFloat : Datum → Except Misfit Float
  | bool b => .ok (if b then 1.0 else 0.0)
  | int n => Decimal.ofInt n
  | float x => .ok x
  | text t => readable (Decimal.readFloat? t)
  | bytes bs => readable ((asciiText? bs).bind Decimal.readFloat?)
  | _ => .error .wrongType

end Datum

end SecretScan
