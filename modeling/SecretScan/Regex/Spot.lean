import SecretScan.Regex.Parser

/-!
# Places in a text

Matching moves a place through the text, one character at a time, and notes what groups have matched
on the way. `Spot.between` reads the text between two places; `Spot.satisfies` decides the anchors.
-/

namespace SecretScan.Regex

/-- What a group has matched: where it begins, and its text. -/
structure Capture where
  /-- The offset of the first character. -/
  start : Nat
  /-- The characters. -/
  text : Text
deriving DecidableEq, Repr

/-- A place in the text, with what groups have matched so far. -/
structure Spot where
  /-- The text before the place, nearest character first. -/
  before : Text
  /-- The text after the place. -/
  after : Text
  /-- The offset of the place. -/
  pos : Nat
  /-- What groups have matched last, by number. -/
  captures : List (Nat × Capture)
  /-- How often a group has matched something else than before. Only groups that the expression
  refers back to count. -/
  changes : Nat

namespace Spot

/-- The place behind the next character, if the class holds it. -/
def ahead? (s : Spot) (k : CharClass) : Option Spot :=
  match s.after with
  | [] => none
  | c :: rest =>
    if k.contains c then some { s with before := c :: s.before, after := rest, pos := s.pos + 1 }
    else none

/-- The place before the previous character, if the class holds it. -/
def back? (s : Spot) (k : CharClass) : Option Spot :=
  match s.before with
  | [] => none
  | c :: rest =>
    if k.contains c then some { s with before := rest, after := c :: s.after, pos := s.pos - 1 }
    else none

/-- The text between two places. -/
def between (s t : Spot) : Text :=
  if s.pos ≤ t.pos then s.after.take (t.pos - s.pos) else t.after.take (s.pos - t.pos)

/-- Whether the character at one side of the place belongs to a word. -/
def isWordAt (side : Text) : Bool :=
  side.head?.any fun c => Property.isWord c.toNat

/-- Whether an anchor holds at the place. -/
def satisfies (s : Spot) : Anchor → Bool
  | .textStart => s.before.isEmpty
  | .lineStart => s.before.isEmpty || s.before.head? = some '\n'
  | .textEnd => s.after.isEmpty
  | .lastLineEnd => s.after.isEmpty || s.after = ['\n']
  | .lineEnd => s.after.isEmpty || s.after.head? = some '\n'
  | .wordBoundary => isWordAt s.before != isWordAt s.after
  | .noWordBoundary => isWordAt s.before == isWordAt s.after
  | .wordStart => !isWordAt s.before && isWordAt s.after
  | .wordEnd => isWordAt s.before && !isWordAt s.after

/-- The place past the text `t`, which must come next in the direction of matching. -/
def past? (s : Spot) (back ignoreCase : Bool) (t : Text) : Option Spot :=
  (if back then t.reverse else t).foldlM
    (fun s c =>
      let k : CharClass := ⟨[.char c.toNat], true, ignoreCase⟩
      if back then s.back? k else s.ahead? k) s

/-- The place `t`, where a group that began at `s` ends. `counts` tells whether a new match of the
group counts as a change. -/
def remember (s t : Spot) (group : Nat) (counts : Bool) : Spot :=
  let capture : Capture := ⟨min s.pos t.pos, s.between t⟩
  let same := !counts || t.captures.lookup group = some capture
  { t with
    captures := (group, capture) :: t.captures.filter (·.1 ≠ group)
    changes := if same then t.changes else t.changes + 1 }

/-- Whether nothing has happened between two places: the offset is the same, and no group has
matched anything new. -/
def settled (s t : Spot) : Bool :=
  s.pos = t.pos && s.changes = t.changes

end Spot

end SecretScan.Regex
