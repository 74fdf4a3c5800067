import SecretScan.Pattern.Token

/-!
# Walking a pattern

`Walk` is a position in a pattern together with what has to be remembered to tell syntax from
text. Its rules:

* a backslash takes exactly the next character with it, so `\\\\(` is an escaped backslash followed
  by a real parenthesis;
* `[` opens a class; inside a class `[` is an ordinary member, except where a named item such as
  `[:alpha:]` begins, which nests one level;
* a `]` directly after `[` or `[^` is a member of the class.

The last two rules look ahead: at `[` the walk notes where a literal `]` may stand, and at a named
item where its closing `]` is. `jump` moves elsewhere and leaves these notes as they were.
-/

namespace SecretScan.Pattern

/-- A position in a pattern and the state of the walk there. -/
structure Walk where
  /-- The whole pattern. -/
  text : Text
  /-- The offset of the next character. -/
  pos : Nat
  /-- `0` outside any class, `1` inside a class, `2` inside a named item of a class. -/
  classDepth : Nat
  /-- Whether the previous character was an escaping backslash. -/
  escaped : Bool
  /-- Where a `]` would be a literal member of the class opened last. -/
  literalClose : Option Nat
  /-- Where the named item opened last is closed. -/
  itemClose : Option Nat
deriving DecidableEq, Repr

namespace Walk

/-- A walk that begins at offset `pos`, outside any class and escape. -/
def start (text : Text) (pos : Nat) : Walk :=
  ⟨text, pos, 0, false, none, none⟩

/-- Whether no character is left. -/
def done (w : Walk) : Bool :=
  w.text.length ≤ w.pos

/-- Whether the next character stands inside a class. -/
def inClass (w : Walk) : Bool :=
  0 < w.classDepth

/-- What is left of the pattern. -/
def rest (w : Walk) : Text :=
  w.text.drop w.pos

/-- The character `offset` places after the position, if there is one. -/
def peek (w : Walk) (offset : Int) : Option Char :=
  match (w.pos : Int) + offset with
  | .ofNat i => w.text[i]?
  | .negSucc _ => none

/-- Whether the pattern goes on with `start` at `offset` places after the position. A place before
the beginning counts from the end of the pattern, and one beyond the end has nothing, not even
the empty text. -/
def startsWith (w : Walk) (start : Text) (offset : Int) : Bool :=
  match (w.pos : Int) + offset with
  | .ofNat i => i ≤ w.text.length && start.isPrefixOf (w.text.drop i)
  | .negSucc i => start.isPrefixOf (w.text.drop (w.text.length - (i + 1)))

/-- Whether the next character is `c` as syntax: unescaped and outside any class. -/
def atSyntax (w : Walk) (c : Char) : Bool :=
  !w.escaped && !w.inClass && w.text[w.pos]? = some c

/-- Whether the pattern is used up, and that outside any class and escape. -/
def atSyntaxEnd (w : Walk) : Bool :=
  !w.escaped && !w.inClass && w.done

/-- Moves to offset `pos`, outside any class and escape. -/
def jump (w : Walk) (pos : Nat) : Walk :=
  { w with pos, classDepth := 0, escaped := false }

/-- The first offset of a class opened at `i` where members stand: past the `^` of a negated
class. -/
def bodyStart (text : Text) (i : Nat) : Nat :=
  if text[i + 1]? = some '^' then i + 2 else i + 1

/-- Takes one unescaped character `c` outside any class. -/
def stepOutside (w : Walk) (c : Char) : TokenKind × Walk :=
  let next := { w with pos := w.pos + 1 }
  if c = '[' then
    (.classOpen, { next with classDepth := 1, literalClose := some (bodyStart w.text w.pos) })
  else (.char, next)

/-- Takes one unescaped character `c` inside a class. -/
def stepInside (w : Walk) (c : Char) : TokenKind × Walk :=
  let next := { w with pos := w.pos + 1 }
  if c = ']' then
    if w.literalClose = some w.pos then (.member, next)
    else if 1 < w.classDepth ∧ w.itemClose ≠ some w.pos then (.member, next)
    else (.classClose, { next with classDepth := w.classDepth - 1 })
  else if c = '[' ∧ w.classDepth = 1 then
    match namedItemLength? w.rest with
    | some n => (.classOpen, { next with classDepth := 2, itemClose := some (w.pos + n - 1) })
    | none => (.member, next)
  else (.member, next)

/-- Takes the next character and gives its kind and the walk after it. -/
def stepOn (w : Walk) (c : Char) : TokenKind × Walk :=
  if w.escaped then (.escaped, { w with pos := w.pos + 1, escaped := false })
  else if c = '\\' then (.escape, { w with pos := w.pos + 1, escaped := true })
  else if w.inClass then w.stepInside c
  else w.stepOutside c

/-- Takes the next character, if there is one. -/
def step (w : Walk) : Option (Token × Walk) :=
  match w.text[w.pos]? with
  | none => none
  | some c =>
    let (kind, next) := w.stepOn c
    some (⟨w.pos, c, kind, w.inClass⟩, next)

/-- The next `n` tokens, or fewer if the pattern ends. -/
def take : Nat → Walk → List Token
  | 0, _ => []
  | n + 1, w =>
    match w.step with
    | none => []
    | some (token, next) => token :: take n next

/-- The tokens of what is left of the pattern. -/
def tokens (w : Walk) : List Token :=
  w.take (w.text.length - w.pos)

theorem stepOutside_pos (w : Walk) (c : Char) : (w.stepOutside c).2.pos = w.pos + 1 := by
  unfold stepOutside
  split <;> rfl

theorem stepInside_pos (w : Walk) (c : Char) : (w.stepInside c).2.pos = w.pos + 1 := by
  unfold stepInside
  repeat' split
  all_goals rfl

/-- A step moves on by exactly one character. -/
theorem stepOn_pos (w : Walk) (c : Char) : (w.stepOn c).2.pos = w.pos + 1 := by
  unfold stepOn
  repeat' split
  all_goals first | rfl | exact stepInside_pos w c | exact stepOutside_pos w c

end Walk

/-- The tokens of a whole pattern. -/
def tokens (pattern : Text) : List Token :=
  (Walk.start pattern 0).tokens

end SecretScan.Pattern
