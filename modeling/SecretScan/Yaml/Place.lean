import SecretScan.Text.Basic

/-!
# Places in a document

Indentation and lines carry meaning in YAML, so a place in a document is the rest of its text
together with the line and the column where that rest begins.
-/

namespace SecretScan.Yaml

/-- Whether a line ends with `c`. -/
def isBreak (c : Char) : Bool :=
  c = '\n' || c = '\x85' || c = '\u2028' || c = '\u2029'

/-- A line break as it counts inside a value. -/
def keptBreak (c : Char) : Char :=
  if c = '\x85' then '\n' else c

/-- Whether `c` is a space or a tab. -/
def isBlankChar (c : Char) : Bool :=
  c = ' ' || c = '\t'

/-- Whether the text ends or goes on with a character in `p`. -/
def endsOr (p : Char → Bool) : Text → Bool
  | [] => true
  | c :: _ => p c

/-- Whether a space or the end of the line comes next. -/
def atSpace (t : Text) : Bool :=
  endsOr (fun c => c = ' ' || isBreak c) t

/-- Whether a space, a tab or the end of the line comes next. -/
def atGap (t : Text) : Bool :=
  endsOr (fun c => isBlankChar c || isBreak c) t

/-- Whether `t` begins with `mark` and a gap after it. -/
def atMark (mark : String) (t : Text) : Bool :=
  mark.toList.isPrefixOf t && atGap (t.drop mark.length)

/-- Whether a document begins or ends here, if a line begins here. -/
def atSeparator (t : Text) : Bool :=
  atMark "---" t || atMark "..." t

/-- Whether a document may hold the character. -/
def isAllowed (c : Char) : Bool :=
  let n := c.toNat
  c = '\t' || c = '\n' || c = '\r' || n = 0x85
    || Text.inRanges [(0x20, 0x7E), (0xA0, 0xD7FF), (0xE000, 0xFFFD), (0x10000, 0x10FFFF)] n

/-- A place in a document. -/
structure Place where
  /-- The text from here on. -/
  rest : Text
  /-- How many characters come before. -/
  index : Nat
  /-- How many lines come before. -/
  line : Nat
  /-- How many characters of this line come before. -/
  column : Nat

namespace Place

/-- The beginning of a document. A byte order mark there is no part of it. -/
def start (t : Text) : Place :=
  match t with
  | '\uFEFF' :: t => ⟨t, 1, 0, 0⟩
  | t => ⟨t, 0, 0, 0⟩

/-- The place after the next character. A byte order mark takes no column. -/
def next (p : Place) : Place :=
  match p.rest with
  | [] => p
  | c :: t =>
    if isBreak c then ⟨t, p.index + 1, p.line + 1, 0⟩
    else ⟨t, p.index + 1, p.line, if c = '\uFEFF' then p.column else p.column + 1⟩

/-- The place after the next `n` characters. -/
def skip (p : Place) : Nat → Place
  | 0 => p
  | n + 1 => p.next.skip n

/-- The next character is gone from the rest. -/
theorem rest_next (p : Place) : p.next.rest = p.rest.drop 1 := by
  unfold next
  cases h : p.rest with
  | nil => simp [h]
  | cons c t => by_cases hc : isBreak c <;> simp [hc]

/-- The characters passed over are gone from the rest. -/
theorem rest_skip (p : Place) (n : Nat) : (p.skip n).rest = p.rest.drop n := by
  induction n generalizing p with
  | zero => simp [skip]
  | succ n ih => rw [skip, ih, rest_next, List.drop_drop, Nat.add_comm]

end Place

end SecretScan.Yaml
