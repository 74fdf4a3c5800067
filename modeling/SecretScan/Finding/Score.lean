import SecretScan.Finding.Benign
import SecretScan.Finding.Dedup

/-!
# Scoring

A match becomes a finding if nothing speaks against it: it is no benign text, its score is high
enough, and the same secret has not been reported before. The score comes from the confidence of the
rule and moves by ten points for a high or a low entropy.
-/

namespace SecretScan

/-- The score before entropy is looked at. -/
def Confidence.baseScore : Confidence → Int
  | high => 85
  | medium => 70
  | low => 60
  | other _ => 60

/-- What an entropy adds to a score. -/
def entropyAdjustment : Option Float → Int
  | none => 0
  | some entropy => if 4.5 < entropy then 10 else if entropy < 3.5 then -10 else 0

/-- The score of a match. -/
def scoreOf (confidence : Confidence) (entropy : Option Float) : Score :=
  .clamp (confidence.baseScore + entropyAdjustment entropy)

/-- The least score that is reported unless another one is asked for. -/
def defaultMinScore : Int := 60

/-- Matches divided into candidates for a report and suppressions. -/
structure Triage where
  /-- The candidates. -/
  candidates : List Finding
  /-- The matches that are not reported. -/
  suppressed : List Suppression

/-- The finding that a match in `content` would make. -/
def Match.finding (m : Match) (content location : Text) : Finding :=
  { found := m
    score := scoreOf m.confidence m.entropy
    context := contextOf content m.offset m.text.length
    location
    line := lineNumber content m.offset }

/-- Why a match is not reported, duplicates apart. -/
def Match.objection? (m : Match) (content : Text) (minScore : Int) : Option Reason :=
  match benignReason? content m.offset m.text with
  | some reason => some reason
  | none =>
    if ((scoreOf m.confidence m.entropy).val : Int) < minScore then some .lowConfidence else none

/-- Divides matches by whether something speaks against them. -/
def triage (content location : Text) (minScore : Int) : List Match → Triage
  | [] => ⟨[], []⟩
  | m :: ms =>
    let rest := triage content location minScore ms
    match m.objection? content minScore with
    | some reason =>
      { rest with suppressed := ⟨m.ruleId, location, m.offset, reason⟩ :: rest.suppressed }
    | none => { rest with candidates := m.finding content location :: rest.candidates }

/-- The suppression of a finding as a duplicate. -/
def Finding.asDuplicate (f : Finding) (location : Text) : Suppression :=
  ⟨f.found.ruleId, location, f.found.offset, .duplicate⟩

/-- Scored matches. -/
structure Scored where
  /-- What is reported. -/
  findings : List Finding
  /-- What is not. -/
  suppressed : List Suppression
  /-- The keys of all findings so far. -/
  seen : List FindingKey

/-- Scores matches in `content`, given the keys that have been seen before. -/
def score (content location : Text) (minScore : Int) (seen : List FindingKey) (ms : List Match) :
    Except LocationError Scored := do
  let t := triage content location minScore ms
  let d ← deduplicate seen t.candidates
  return ⟨d.kept, t.suppressed ++ d.duplicates.map (·.asDuplicate location), d.seen⟩

end SecretScan
