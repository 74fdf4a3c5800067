import SecretScan.Text.Basic

/-!
# The exact value of a floating-point number

A double is a sign together with `m · 2 ^ q`, an infinity, or not a number. Decimal notation is
computed from that exact value with whole numbers only.
-/

namespace SecretScan.Decimal

/-- A power of two; a negative exponent counts as zero. -/
def twos (exponent : Int) : Nat :=
  Nat.pow 2 exponent.toNat

/-- A power of ten; a negative exponent counts as zero. -/
def tens (exponent : Int) : Nat :=
  Nat.pow 10 exponent.toNat

/-- What a double stands for. -/
inductive Binary where
  /-- The value `± mantissa · 2 ^ exponent`. -/
  | finite (negative : Bool) (mantissa : Nat) (exponent : Int)
  /-- An infinity. -/
  | infinite (negative : Bool)
  /-- Not a number. -/
  | nan
deriving DecidableEq, Repr

namespace Binary

/-- Reads the three fields of a double: sign, eleven bits of exponent, 52 bits of fraction. -/
def ofBits (bits : UInt64) : Binary :=
  let n : Nat := bits.toNat
  let negative := n / twos 63 = 1
  let exponent : Nat := n / twos 52 % twos 11
  let fraction : Nat := n % twos 52
  if exponent = 2047 then
    if fraction = 0 then infinite negative else nan
  else if exponent = 0 then finite negative fraction (-1074)
  else finite negative (fraction + twos 52) ((exponent : Int) - 1075)

/-- What the double `x` stands for. -/
def ofFloat (x : Float) : Binary :=
  ofBits x.toBits

end Binary

/-- The whole number nearest to `num / den`; of two nearest ones, the even one. -/
def roundHalfEven (num den : Nat) : Nat :=
  let quotient := num / den
  let twice := 2 * (num % den)
  if twice < den then quotient
  else if den < twice then quotient + 1
  else if quotient % 2 = 0 then quotient
  else quotient + 1

/-- `mantissa · 2 ^ exponent · 10 ^ power` as a fraction. -/
def scaled (mantissa : Nat) (exponent power : Int) : Nat × Nat :=
  (mantissa * twos exponent * tens power,
   twos (-exponent) * tens (-power))

/-- The decimal digits of `n`, most significant first; zero has one digit. -/
def digits (n : Nat) : Text :=
  Nat.toDigits 10 n

/-- Rounding moves a value by at most half a unit. -/
theorem roundHalfEven_close (num den : Nat) (h : 0 < den) :
    2 * num ≤ (2 * roundHalfEven num den + 1) * den ∧
      2 * roundHalfEven num den * den ≤ 2 * num + den := by
  have hdm := Nat.div_add_mod num den
  have hlt := Nat.mod_lt num h
  have hc : den * (num / den) = num / den * den := Nat.mul_comm _ _
  unfold roundHalfEven
  simp only
  split
  · constructor
    · rw [Nat.add_mul, Nat.mul_assoc]; omega
    · rw [Nat.mul_assoc]; omega
  · split
    · constructor
      · rw [Nat.add_mul, Nat.mul_assoc, Nat.add_mul]; omega
      · rw [Nat.mul_assoc, Nat.add_mul]; omega
    · split
      · constructor
        · rw [Nat.add_mul, Nat.mul_assoc]; omega
        · rw [Nat.mul_assoc]; omega
      · constructor
        · rw [Nat.add_mul, Nat.mul_assoc, Nat.add_mul]; omega
        · rw [Nat.mul_assoc, Nat.add_mul]; omega

end SecretScan.Decimal
