import SecretScan.Text.Basic

/-!
# Detection rules

A rule says what a secret looks like: a pattern in the rule dialect, and gates that a match of the
pattern has to pass. This module holds rules as they are written down, before they are compiled.
-/

namespace SecretScan

/-- How sure the author of a rule is that a match is a secret. -/
inductive Confidence where
  /-- A match is almost certainly a secret. -/
  | high
  /-- A match is probably a secret. -/
  | medium
  /-- A match may be a secret. -/
  | low
  /-- A label of the author's own; it weighs as much as `low`. -/
  | other (label : String)
deriving DecidableEq, Repr

namespace Confidence

/-- The label as it is written. -/
def label : Confidence → String
  | high => "high"
  | medium => "medium"
  | low => "low"
  | other label => label

/-- The confidence that a label means. -/
def ofLabel (label : String) : Confidence :=
  if label = "high" then high
  else if label = "medium" then medium
  else if label = "low" then low
  else other label

/-- A label is written as it was read. -/
theorem label_ofLabel (label : String) : (ofLabel label).label = label := by
  unfold ofLabel
  split
  · next h => exact h.symm
  · split
    · next h => exact h.symm
    · split
      · next h => exact h.symm
      · rfl

end Confidence

/-- What the text of a match has to look like. -/
structure Requirements where
  /-- The least number of digits. -/
  minDigits : Option Int
  /-- The least number of upper-case letters. -/
  minUppercase : Option Int
  /-- The least number of lower-case letters. -/
  minLowercase : Option Int
  /-- The least number of special characters. -/
  minSpecial : Option Int
  /-- The characters that count as special. -/
  specialChars : Option Text
  /-- A match that contains one of these terms is ignored. -/
  ignoreTerms : List Text
deriving DecidableEq, Repr

/-- Requirements that every text meets. -/
def Requirements.free : Requirements :=
  ⟨none, none, none, none, none, []⟩

/-- A detection rule. -/
structure Rule where
  /-- The identifier; of two rules with the same one the later counts. -/
  id : String
  /-- The name shown to people. -/
  name : String
  /-- The pattern in the rule dialect. -/
  pattern : Option Text
  /-- The least entropy of a match, in bits per character. -/
  minEntropy : Option Float
  /-- What else a match has to meet. -/
  requirements : Option Requirements
  /-- How sure a match is. -/
  confidence : Confidence
  /-- What the rule finds, in words. -/
  description : String
  /-- Texts in which the rule should find something. -/
  examples : List Text

namespace Rule

/-- A rule with an identifier, a name and a pattern, and all else left open. -/
def ofPattern (id name : String) (pattern : Text) : Rule :=
  { id, name, pattern := some pattern, minEntropy := none, requirements := none,
    confidence := .medium, description := "", examples := [] }

/-- The pattern, if the rule has one that is not empty. -/
def usablePattern? (rule : Rule) : Option Text :=
  match rule.pattern with
  | some [] => none
  | pattern => pattern

end Rule

end SecretScan
