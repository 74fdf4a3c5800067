import SecretScan.Decimal.Shortest

/-!
# JSON values

The form in which reports and structured log lines are built. An object is a list of fields in the
order in which they are written.
-/

namespace SecretScan

/-- A JSON value. -/
inductive Json where
  /-- The value `null`. -/
  | null
  /-- A truth value. -/
  | bool (b : Bool)
  /-- A whole number. -/
  | int (n : Int)
  /-- A floating-point number. -/
  | float (x : Float)
  /-- A string. -/
  | text (s : String)
  /-- An array. -/
  | list (items : List Json)
  /-- An object; its fields keep their order. -/
  | object (fields : List (String × Json))
deriving Inhabited

namespace Json

/-- A whole number that is not negative. -/
def nat (n : Nat) : Json :=
  int n

/-- The value of the field `name`; of several fields of that name the last one counts. -/
def get? (name : String) : Json → Option Json
  | object fields => fields.reverse.lookup name
  | _ => none

end Json

end SecretScan
