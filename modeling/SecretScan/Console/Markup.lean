import SecretScan.Text.Blank
import SecretScan.Text.Lower

/-!
# Markup

What is shown on a screen is written with tags in square brackets that set its style, like
`[bold]…[/bold]`. A closing tag ends the last tag of its name, or with no name the last tag at all;
one that ends nothing is an error. A backslash before a tag makes it ordinary text. Styles do not
matter here: what counts is the text that is left and whether the tags make sense. This is the
reading of the console that is at hand; it knows neither names of signs between colons nor the
values that tags can have.
-/

namespace SecretScan

/-- What is wrong with markup. -/
structure MarkupError where
  /-- The error in words. -/
  message : String
deriving DecidableEq, Repr

/-- A closing tag ends no open one. -/
def MarkupError.notOpen (tag : Text) (position : Nat) : MarkupError :=
  ⟨s!"closing tag '[{String.ofList tag}]' at position {position} doesn't match any open tag"⟩

/-- A closing tag without a name stands where nothing is open. -/
def MarkupError.nothingOpen (position : Nat) : MarkupError :=
  ⟨s!"closing tag '[/]' at position {position} has nothing to close"⟩

namespace Markup

/-- Whether a tag can begin with a character. -/
def opensTag (c : Char) : Bool :=
  ('a' ≤ c && c ≤ 'z') || c = '#' || c = '/' || c = '@'

/-- What stands in the square brackets of a tag at the start of a text. -/
def tagAt? : Text → Option Text
  | '[' :: c :: t =>
    if opensTag c then
      let inner := (c :: t).takeWhile fun c => c ≠ ']' && c ≠ '['
      if (c :: t)[inner.length]? = some ']' then some inner else none
    else none
  | _ => none

/-- A part of markup. -/
inductive Piece where
  /-- Ordinary text. -/
  | text (t : Text)
  /-- Text that was kept from being a tag. -/
  | literal (t : Text)
  /-- A tag. -/
  | tag (inner : Text) (position : Nat)
deriving DecidableEq, Repr

/-- A character of ordinary text before other parts. -/
def Piece.before (c : Char) : List Piece → List Piece
  | .text t :: pieces => .text (c :: t) :: pieces
  | pieces => .text [c] :: pieces

/-- The parts that a tag with backslashes before it makes up, and its length. Two backslashes stand
for one; one that is left over keeps the tag from being one. -/
def markAt? (position : Nat) (t : Text) : Option (List Piece × Nat) :=
  let slashes := (t.takeWhile (· = '\\')).length
  (tagAt? (t.drop slashes)).map fun inner =>
    let escaped := List.replicate (slashes / 2) '\\'
    let size := slashes + inner.length + 2
    if slashes % 2 = 0 then ([.literal escaped, .tag inner (position + slashes)], size)
    else ([.literal escaped, .literal ('[' :: inner ++ [']'])], size)

/-- The parts of markup from a position on; the first `skipped` characters belong to an earlier
part. -/
def piecesFrom (position skipped : Nat) : Text → List Piece
  | [] => []
  | c :: t =>
    if 0 < skipped then piecesFrom (position + 1) (skipped - 1) t
    else
      match markAt? position (c :: t) with
      | some (pieces, size) => pieces ++ piecesFrom (position + 1) (size - 1) t
      | none => Piece.before c (piecesFrom (position + 1) 0 t)

/-- Ordinary text without the backslashes before square brackets. -/
def unescape : Text → Text
  | '\\' :: '[' :: t => '[' :: unescape t
  | c :: t => c :: unescape t
  | [] => []

/-- A name of a tag, by which tags are compared. -/
def nameOf (t : Text) : Text :=
  Text.lower (Text.trim t)

/-- The open tags after a tag, the last one first. -/
def follow (opened : List Text) (inner : Text) (position : Nat) :
    Except MarkupError (List Text) :=
  match Text.before inner '=' with
  | '/' :: closing =>
    let name := nameOf closing
    if (Text.trim closing).isEmpty then
      match opened with
      | [] => .error (.nothingOpen position)
      | _ :: opened => .ok opened
    else if opened.contains name then .ok (opened.erase name)
    else .error (.notOpen inner position)
  | name => .ok (nameOf name :: opened)

/-- The text of parts of markup. -/
def textOf (opened : List Text) : List Piece → Except MarkupError Text
  | [] => .ok []
  | .text t :: pieces => (textOf opened pieces).map (unescape t ++ ·)
  | .literal t :: pieces => (textOf opened pieces).map (t ++ ·)
  | .tag inner position :: pieces => do
    let opened ← follow opened inner position
    textOf opened pieces

/-- The text that markup shows. -/
def shown (markup : Text) : Except MarkupError Text :=
  textOf [] (piecesFrom 0 0 markup)

end Markup

end SecretScan
