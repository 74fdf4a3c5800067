import SecretScan.Regex.Parser
import SecretScan.Rule.Matcher

/-!
# Engines

An engine takes a pattern in native form and some flags, and gives the search for it or complains.
The notation is that of the engine, so what compiling a rule comes to is said for every engine. One
engine is at hand to run rules with; it knows the common part of the notation.
-/

namespace SecretScan

/-- What is wrong with a pattern. -/
structure Complaint where
  /-- The class of the error. -/
  kind : String
  /-- What it says. -/
  text : String
deriving DecidableEq, Repr

/-- The complaint in words. -/
def Complaint.message (c : Complaint) : String :=
  s!"{c.kind}: {c.text}"

/-- What makes searches out of patterns. -/
structure Engine where
  /-- The search for a pattern under some flags, or what is wrong with the pattern. -/
  read : Regex.Flags → Text → Except Complaint Matcher

/-- The engine that is at hand. -/
def Regex.engine : Engine where
  read flags pattern :=
    match Regex.parse flags pattern with
    | .ok program => .ok (.ofProgram program)
    | .error e => .error ⟨"error", e.message pattern⟩

end SecretScan
