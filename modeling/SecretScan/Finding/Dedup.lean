import SecretScan.Finding.Basic
import SecretScan.Finding.Location

/-!
# Duplicates

The same secret at the same place is reported once. Two findings are duplicates if they agree in the
rule, the matched text and the normal form of the location; the first one is kept.
-/

namespace SecretScan

/-- What duplicates have in common. -/
structure FindingKey where
  /-- The rule. -/
  ruleId : String
  /-- The matched text. -/
  text : Text
  /-- The location in normal form. -/
  location : Text
deriving DecidableEq, Repr

/-- The key of a finding. -/
def Finding.key (f : Finding) : Except LocationError FindingKey := do
  return ⟨f.found.ruleId, f.found.text, ← Location.normalize f.location⟩

/-- Findings divided into those that are kept and those that are not. -/
structure Division where
  /-- The first finding of each key. -/
  kept : List Finding
  /-- The other findings. -/
  duplicates : List Finding
  /-- All keys seen so far. -/
  seen : List FindingKey

/-- Divides findings, given the keys that have been seen before. -/
def deduplicate (seen : List FindingKey) : List Finding → Except LocationError Division
  | [] => .ok ⟨[], [], seen⟩
  | f :: fs => do
    let key ← f.key
    if key ∈ seen then
      let d ← deduplicate seen fs
      return { d with duplicates := f :: d.duplicates }
    else
      let d ← deduplicate (key :: seen) fs
      return { d with kept := f :: d.kept }

end SecretScan
