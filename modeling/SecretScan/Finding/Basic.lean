import SecretScan.Scan.Unit

/-!
# Findings

A finding is a match that is reported, with a score, its surroundings and the place where it was
found. A match that is not reported leaves a suppression, so that nothing is dropped silently.
-/

namespace SecretScan

/-- A score from 0 to 100. -/
abbrev Score := { n : Nat // n ≤ 100 }

/-- The score nearest to `n`. -/
def Score.clamp (n : Int) : Score :=
  ⟨min 100 n.toNat, Nat.min_le_left _ _⟩

/-- A match that is reported. -/
structure Finding where
  /-- The match. -/
  found : Match
  /-- How sure the finding is. -/
  score : Score
  /-- The text around the match. -/
  context : Text
  /-- Where the content comes from. -/
  location : Text
  /-- The line of the match, counted from 1; 0 if it is not known. -/
  line : Int

/-- Why a match is not reported. -/
inductive Reason where
  /-- The matched text looks like a hash, an identifier or a bundler artefact. -/
  | benignShape
  /-- The match lies in embedded data, a source map or an import. -/
  | assetContext
  /-- The match is encoded data. -/
  | encodedData
  /-- The line of the match is a comment. -/
  | commentLine
  /-- The score is too low. -/
  | lowConfidence
  /-- The same text was reported before. -/
  | duplicate
deriving DecidableEq, Repr

/-- The reason as it is written in reports. -/
def Reason.label : Reason → String
  | benignShape => "benign_shape"
  | assetContext => "asset_context"
  | encodedData => "base64_data"
  | commentLine => "comment_line"
  | lowConfidence => "low_confidence"
  | duplicate => "duplicate"

/-- All reasons. -/
def Reason.all : List Reason :=
  [benignShape, assetContext, encodedData, commentLine, lowConfidence, duplicate]

/-- The reason with a label. -/
def Reason.ofLabel? (label : String) : Option Reason :=
  Reason.all.find? fun reason => reason.label = label

/-- The record of a match that is not reported. -/
structure Suppression where
  /-- The rule. -/
  ruleId : String
  /-- Where the content comes from. -/
  location : Text
  /-- The offset of the match. -/
  offset : Nat
  /-- Why the match is not reported. -/
  reason : Reason
deriving DecidableEq, Repr

/-- The record of a unit that failed. -/
structure UnitFailure where
  /-- The rule, or `*` for all rules. -/
  ruleId : String
  /-- Where the content comes from. -/
  location : Text
  /-- What went wrong. -/
  fault : Fault
deriving DecidableEq, Repr

end SecretScan
