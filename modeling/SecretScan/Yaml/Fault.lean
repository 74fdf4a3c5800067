import SecretScan.Datum.Time
import SecretScan.Decimal.Numeral

/-!
# What can be wrong with a document

Most faults break the rules of YAML itself. The others are values that are tagged as numbers, truth
values or times, or look like them, and are none.
-/

namespace SecretScan.Yaml

/-- What is wrong with a document. -/
inductive Fault where
  /-- It is not well formed. -/
  | malformed
  /-- An escape stands for no character. -/
  | noSuchChar
  /-- The number of an escape is beyond 31 bits. -/
  | hugeChar
  /-- A whole number has no digits. -/
  | noDigits
  /-- A whole number has too many digits. -/
  | tooManyDigits (count : Nat)
  /-- A whole number cannot be read. -/
  | badInteger (radix : Nat) (numeral : Text)
  /-- A floating-point number cannot be read. -/
  | badNumber (numeral : Text)
  /-- A truth value has an unknown name. -/
  | badTruth (word : Text)
  /-- A time is not written like one. -/
  | badTime
  /-- A date or time does not exist. -/
  | noSuchTime (f : TimeFault)
deriving DecidableEq, Repr

/-- The fault in words; some have none. -/
def Fault.message : Fault → String
  | malformed | noDigits | badTime => ""
  | noSuchChar => "chr() arg not in range(0x110000)"
  | hugeChar => "Python int too large to convert to C int"
  | tooManyDigits count => Decimal.tooManyDigits (some count)
  | badInteger radix numeral =>
    s!"invalid literal for int() with base {radix}: {String.ofList numeral.quoted}"
  | badNumber numeral => s!"could not convert string to float: {String.ofList numeral.quoted}"
  | badTruth word => String.ofList word.quoted
  | noSuchTime f => f.message

end SecretScan.Yaml
