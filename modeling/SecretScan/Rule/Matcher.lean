import SecretScan.Regex.Progress

/-!
# Matchers

A matcher searches a text from an offset on. It is known by what it answers, so that rules can be
scanned with any search that keeps to the bounds of the text.
-/

namespace SecretScan

/-- Why applying a rule went wrong. -/
inductive Fault where
  /-- The time for it ran out. -/
  | timeout
  /-- Something failed in some way. -/
  | error (kind : String)
deriving DecidableEq, Repr

namespace Fault

/-- The class of the fault. -/
def kind : Fault → String
  | timeout => "timeout"
  | error _ => "error"

/-- What is recorded of the fault. -/
def detail : Fault → String
  | timeout => "timed out"
  | error kind => kind

end Fault

/-- What is raised when something fails. -/
structure Raised where
  /-- The fault. -/
  fault : Fault
  /-- What it says. It may hold parts of the scanned content, so it is never recorded. -/
  text : Text
deriving DecidableEq, Repr

/-- An error of some kind. -/
def Raised.error (kind : String) (text : Text := []) : Raised :=
  ⟨.error kind, text⟩

/-- What a matcher answers. -/
inductive Reply where
  /-- There is no further match. -/
  | nothing
  /-- The next match spans the offsets from `start` up to `stop`. -/
  | found (start stop : Nat)
  /-- The search failed. -/
  | fault (e : Raised)
  /-- There is no further match, and the whole scan is asked to stop. -/
  | cancel
deriving DecidableEq, Repr

/-- A search that finds spans of the text at or after the offset where it starts. -/
structure Matcher where
  /-- Searches a text from an offset on. -/
  search : Text → Nat → Reply
  /-- A span lies in the text, at or after the offset. -/
  bounds : ∀ {content : Text} {pos start stop : Nat}, pos ≤ content.length →
    search content pos = .found start stop → pos ≤ start ∧ start ≤ stop ∧ stop ≤ content.length

namespace Matcher

/-- The search for a regular expression. -/
def ofProgram (p : Regex.Program) : Matcher where
  search content pos :=
    match p.search? content pos with
    | some (start, stop) => .found start stop
    | none => .nothing
  bounds hp h := by
    split at h
    · next heq => cases h; exact p.search?_bounds hp heq
    · cases h

/-- The search that always gives the same answer, which is not a span. -/
def always (reply : Reply) (h : ∀ start stop, reply ≠ .found start stop) : Matcher where
  search _ _ := reply
  bounds _ e := absurd e (h _ _)

/-- The search that always fails. -/
def failing (f : Fault) (text : Text := []) : Matcher :=
  always (.fault ⟨f, text⟩) (by simp)

/-- The search that asks the scan to stop. -/
def cancelling : Matcher :=
  always .cancel (by simp)

/-- Whether the matcher finds anything in a text. -/
def occursIn (m : Matcher) (content : Text) : Bool :=
  match m.search content 0 with
  | .found _ _ => true
  | _ => false

end Matcher

end SecretScan
