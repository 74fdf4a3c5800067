import SecretScan.Pattern.Walk

/-!
# Groups and balance

Two views of the parentheses of a pattern: where a given group ends, and whether all groups are
closed. Only parentheses that are syntax count.
-/

namespace SecretScan.Pattern

/-- The index of the token at which `depth` open groups are all closed again. -/
def closingIndex? : Nat → List Token → Option Nat
  | _, [] => none
  | depth, t :: ts =>
    if t.isSyntax '(' then closingIndex? (depth + 1) ts
    else if t.isSyntax ')' then
      if depth ≤ 1 then some t.index else closingIndex? (depth - 1) ts
    else closingIndex? depth ts

/-- The offset of the parenthesis that closes the group opened at offset `opening`, or `none` if
the group is never closed. -/
def groupEnd? (pattern : Text) (opening : Nat) : Option Nat :=
  closingIndex? 1 (Walk.start pattern (opening + 1)).tokens

/-- What the balance check finds. -/
inductive Balance where
  /-- Every group is closed. -/
  | balanced
  /-- The `)` at `position` closes no group. -/
  | unmatchedClose (position : Nat)
  /-- `depth` groups stay open, the first of them opened at `position`. -/
  | unmatchedOpen (depth position : Nat)
deriving DecidableEq, Repr

namespace Balance

/-- Whether the check passed. -/
def isValid : Balance → Bool
  | balanced => true
  | _ => false

/-- How many groups stay open. -/
def depth : Balance → Nat
  | unmatchedOpen depth _ => depth
  | _ => 0

/-- Where the check failed. -/
def position? : Balance → Option Nat
  | balanced => none
  | unmatchedClose position => some position
  | unmatchedOpen _ position => some position

/-- The failure in words. -/
def message? : Balance → Option String
  | balanced => none
  | unmatchedClose position => some s!"Unmatched closing parenthesis at position {position}"
  | unmatchedOpen depth position =>
    some s!"Unmatched opening parenthesis (depth: {depth}) at position {position}"

/-- Walks the tokens with the stack of the offsets of the groups still open, innermost first. -/
def ofTokens : List Nat → List Token → Balance
  | stack, [] =>
    match stack.getLast? with
    | none => balanced
    | some first => unmatchedOpen stack.length first
  | stack, t :: ts =>
    if t.isSyntax '(' then ofTokens (t.index :: stack) ts
    else if t.isSyntax ')' then
      match stack with
      | [] => unmatchedClose t.index
      | _ :: stack => ofTokens stack ts
    else ofTokens stack ts

end Balance

/-- Checks that the groups of a pattern balance. The verdict is advice: only compiling the pattern
decides whether a rule is usable. -/
def balance (pattern : Text) : Balance :=
  Balance.ofTokens [] (tokens pattern)

end SecretScan.Pattern
