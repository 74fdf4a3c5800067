import SecretScan.Yaml.Fault
import SecretScan.Yaml.Place

/-!
# Block scalars

A block scalar is made of whole lines that are indented alike. In the folded form a line break
between two lines of text counts as a space. The header tells what becomes of the breaks at the end.
-/

namespace SecretScan.Yaml

/-- What becomes of the line breaks at the end of a block scalar. -/
inductive Chomp where
  /-- One is kept. -/
  | clip
  /-- None is kept. -/
  | strip
  /-- All are kept. -/
  | keep
deriving DecidableEq, Repr

/-- The header of a block scalar. -/
structure BlockHeader where
  /-- What becomes of the breaks at the end. -/
  chomp : Chomp
  /-- How far the lines are indented, if the header tells. -/
  depth : Option Nat
  /-- How many characters the header takes. -/
  length : Nat

/-- What a sign in a header says. -/
def chompOf? (c : Char) : Option Chomp :=
  if c = '+' then some .keep else if c = '-' then some .strip else none

/-- What a digit in a header says. -/
def depthOf? (c : Char) : Option Nat :=
  if c.isDigit then some (c.toNat - 48) else none

/-- The header at the front of `t`: a sign and a digit, in any order, each of them optional. -/
def readHeader (t : Text) : BlockHeader :=
  match t with
  | [] => ⟨.clip, none, 0⟩
  | c :: t =>
    let next := t.head?
    match chompOf? c, depthOf? c with
    | some chomp, _ =>
      match next.bind depthOf? with
      | some depth => ⟨chomp, some depth, 2⟩
      | none => ⟨chomp, none, 1⟩
    | none, some depth =>
      match next.bind chompOf? with
      | some chomp => ⟨chomp, some depth, 2⟩
      | none => ⟨.clip, some depth, 1⟩
    | none, none => ⟨.clip, none, 0⟩

/-- The header of a block scalar, which spaces and a comment may follow. -/
def blockHeader (t : Text) : Except Fault BlockHeader :=
  let header := readHeader t
  if header.depth = some 0 || !atSpace (t.drop header.length) then .error .malformed
  else .ok header

/-- The length of the spaces and the comment at the front of `t` and of the break after them. -/
def lineRemainder (t : Text) : Except Fault Nat :=
  let spaces := (t.takeWhile (· = ' ')).length
  let rest := t.drop spaces
  let comment := if rest.head? = some '#' then (rest.takeWhile (!isBreak ·)).length else 0
  let n := spaces + comment
  match t.drop n with
  | [] => .ok n
  | c :: _ => if isBreak c then .ok (n + 1) else .error .malformed

/-- Empty lines at the front of `t`. -/
structure EmptyLines where
  /-- Their breaks. -/
  breaks : Text
  /-- How many characters they take, and the indentation of the next line with them. -/
  length : Nat
  /-- The deepest indentation among them. -/
  deepest : Nat

/-- The empty lines at the front of `t`, where `t` begins at column `column`. -/
def anyEmptyLines (column : Nat) : Text → EmptyLines
  | [] => ⟨[], 0, 0⟩
  | c :: t =>
    if c = ' ' then
      let more := anyEmptyLines (column + 1) t
      ⟨more.breaks, more.length + 1, max (column + 1) more.deepest⟩
    else if isBreak c then
      let more := anyEmptyLines 0 t
      ⟨keptBreak c :: more.breaks, more.length + 1, more.deepest⟩
    else ⟨[], 0, 0⟩

/-- The breaks of the empty lines at the front of `t`, and how many characters they take together
with up to `indent` columns of indentation. -/
def emptyLines (indent column : Nat) : Text → Text × Nat
  | [] => ([], 0)
  | c :: t =>
    if c = ' ' && column < indent then
      let (breaks, n) := emptyLines indent (column + 1) t
      (breaks, n + 1)
    else if isBreak c then
      let (breaks, n) := emptyLines indent 0 t
      (keptBreak c :: breaks, n + 1)
    else ([], 0)

/-- Lines of a block scalar. -/
structure BlockLines where
  /-- Their text. -/
  text : Text
  /-- The break of the last line. -/
  lastBreak : Text
  /-- The breaks of the empty lines after it. -/
  breaks : Text
  /-- The place after them. -/
  place : Place

/-- Whether the text goes on with a space or a tab. -/
def atBlank (t : Text) : Bool :=
  match t with
  | [] => false
  | c :: _ => isBlankChar c

/-- The line break `c` between two lines, where `breaks` come after it. -/
def joint (folded : Bool) (c : Char) (breaks : Text) (blankAround : Bool) : Text :=
  if folded && keptBreak c = '\n' && !blankAround then (if breaks.isEmpty then [' '] else [])
  else [keptBreak c]

/-- The lines from `p` on; `breaks` have come before. -/
def blockLines (folded : Bool) (indent : Nat) (breaks : Text) (p : Place) : BlockLines :=
  if p.column ≠ indent || p.rest.isEmpty then ⟨[], [], breaks, p⟩
  else
    let line := p.rest.takeWhile (!isBreak ·)
    let lineEnd := p.skip line.length
    match _h : lineEnd.rest with
    | [] => ⟨breaks ++ line, [], [], lineEnd⟩
    | c :: _ =>
      let (nextBreaks, n) := emptyLines indent 0 lineEnd.next.rest
      let place := lineEnd.next.skip n
      if place.column = indent && !place.rest.isEmpty then
        let between := joint folded c nextBreaks (atBlank p.rest || atBlank place.rest)
        let more := blockLines folded indent nextBreaks place
        { more with text := breaks ++ line ++ between ++ more.text }
      else ⟨breaks ++ line, [keptBreak c], nextBreaks, place⟩
termination_by p.rest.length
decreasing_by
  have := congrArg List.length _h
  simp only [lineEnd, Place.rest_skip, Place.rest_next, List.length_drop, List.length_cons]
    at this ⊢
  omega

/-- A block scalar after its first character. Its lines are indented by at least `least` columns. -/
def blockScalar (folded : Bool) (least : Nat) (p : Place) : Except Fault (Text × Place) := do
  let header ← blockHeader p.rest
  let p := p.skip header.length
  let n ← lineRemainder p.rest
  let p := p.skip n
  let (indent, breaks, n) := match header.depth with
    | some depth =>
      let indent := least + depth - 1
      let (breaks, n) := emptyLines indent p.column p.rest
      (indent, breaks, n)
    | none =>
      let lines := anyEmptyLines p.column p.rest
      (max least lines.deepest, lines.breaks, lines.length)
  let lines := blockLines folded indent breaks (p.skip n)
  let ending := match header.chomp with
    | .strip => []
    | .clip => lines.lastBreak
    | .keep => lines.lastBreak ++ lines.breaks
  return (lines.text ++ ending, lines.place)

end SecretScan.Yaml
