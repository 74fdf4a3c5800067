import SecretScan.Rule.Basic
import SecretScan.Text.Blank
import SecretScan.Text.Lower

/-!
# Checking requirements

A match meets the requirements of its rule if it has enough characters of each kind and holds no
term that marks it as an example. Kinds are counted first, in a fixed order, and only ASCII digits
and letters count. Terms are compared in lower case, without the blanks around them, and a blank
term never hits.
-/

namespace SecretScan

/-- The kinds of characters that are counted. -/
inductive CharKind where
  /-- The ASCII digits. -/
  | digit
  /-- The upper-case ASCII letters. -/
  | uppercase
  /-- The lower-case ASCII letters. -/
  | lowercase
  /-- The special characters. -/
  | special
deriving DecidableEq, Repr

/-- The kind in words. -/
def CharKind.noun : CharKind → String
  | digit => "digit(s)"
  | uppercase => "uppercase letter(s)"
  | lowercase => "lowercase letter(s)"
  | special => "special character(s)"

/-- The outcome of checking a text. -/
inductive Verdict where
  /-- All requirements are met. -/
  | passed
  /-- There are too few characters of a kind. -/
  | short (kind : CharKind) (least : Int) (found : Nat)
  /-- The text holds a term that marks it as an example. -/
  | ignored (term : Text)
deriving DecidableEq, Repr

namespace Verdict

/-- The objection in words. -/
def reason? : Verdict → Option String
  | passed => none
  | short kind least found => some s!"Requires at least {least} {kind.noun}, found {found}"
  | ignored term => some s!"Contains ignored term: {String.ofList term}"

end Verdict

namespace Requirements

/-- The characters that count as special where a rule names none. -/
def defaultSpecials : Text :=
  "!@#$%^&*()_+-=[]\x7b\x7d|;:'\",.<>?/\\`~".toList

/-- The characters that count as special. -/
def specials (r : Requirements) : Text :=
  match r.specialChars with
  | some (c :: cs) => c :: cs
  | _ => defaultSpecials

/-- Whether `c` is of a kind. -/
def isOfKind (r : Requirements) (c : Char) : CharKind → Bool
  | .digit => c.isDigit
  | .uppercase => c.isUpper
  | .lowercase => c.isLower
  | .special => c ∈ r.specials

/-- The least number of characters of a kind. -/
def least? (r : Requirements) : CharKind → Option Int
  | .digit => r.minDigits
  | .uppercase => r.minUppercase
  | .lowercase => r.minLowercase
  | .special => r.minSpecial

/-- The objection to the number of characters of a kind. -/
def shortage? (r : Requirements) (t : Text) (kind : CharKind) : Option Verdict :=
  let found := t.countP fun c => r.isOfKind c kind
  match r.least? kind with
  | some least => if (found : Int) < least then some (.short kind least found) else none
  | none => none

/-- Whether a term hits a text in lower case. -/
def termHits (lowered term : Text) : Bool :=
  let needle := Text.lower term.trim
  !needle.isEmpty && Text.hasInfix needle lowered

/-- Checks a text: the first kind that is short, or else the first term that hits. -/
def check (r : Requirements) (t : Text) : Verdict :=
  match [CharKind.digit, .uppercase, .lowercase, .special].findSome? (r.shortage? t) with
  | some verdict => verdict
  | none =>
    match r.ignoreTerms.find? (termHits (Text.lower t)) with
    | some term => .ignored term.trim
    | none => .passed

end Requirements

end SecretScan
