import SecretScan.Console.Markup
import SecretScan.Text.Width

/-!
# Lines on a screen

Text that is too wide for the screen goes on in the next line. A line ends before the first word
that would not fit; a word that no line can hold is cut where the screen ends.
-/

namespace SecretScan

namespace Console

/-- The columns of a screen, if nothing else is said. -/
def usualWidth : Nat := 200

/-- Controls that a screen is never given. -/
def isDropped (c : Char) : Bool :=
  c.toNat ∈ [0x07, 0x08, 0x0B, 0x0C, 0x0D]

/-- Spaces in place of tabs, each of which ends at a multiple of eight columns; the text begins at
`column`. -/
def expandTabs (column : Nat) : Text → Text
  | [] => []
  | c :: t =>
    if c = '\t' then
      let gap := 8 - column % 8
      List.replicate gap ' ' ++ expandTabs (column + gap) t
    else c :: expandTabs (column + Text.columns c) t

/-- A line cut wherever a word begins. -/
def pieces : Text → List Text
  | [] => []
  | c :: t =>
    match pieces t with
    | [] => [[c]]
    | piece :: rest =>
      if Text.isBlank c && !(piece.head?.any Text.isBlank) then [c] :: piece :: rest
      else (c :: piece) :: rest

/-- The words of a line. Each has the blanks after it, and the first one those before it too. -/
def words (line : Text) : List Text :=
  match pieces line with
  | piece :: word :: rest =>
    if piece.all Text.isBlank then (piece ++ word) :: rest else piece :: word :: rest
  | pieces => pieces

/-- The blanks at the end of a text. -/
def blanksAfter (t : Text) : Text :=
  t.reverse.takeWhile Text.isBlank

/-- A text without the blanks at its end. -/
def trimEnd (t : Text) : Text :=
  t.take (t.length - (blanksAfter t).length)

/-- Cuts a word into parts that a line can hold; `part` is the one that is being filled. -/
def chop (limit : Nat) (part : Text) : Text → List Text
  | [] => [part]
  | c :: t =>
    if limit < Text.width part + Text.columns c then part :: chop limit [c] t
    else chop limit (part ++ [c]) t

/-- Lays out words in lines; `line` is the one that is being filled. -/
def fill (limit : Nat) (line : Text) : List Text → List Text
  | [] => [line]
  | word :: words =>
    let size := Text.width (trimEnd word)
    if Text.width line + size ≤ limit then fill limit (line ++ word) words
    else
      let done := if line.isEmpty then [] else [line]
      if size ≤ limit then done ++ fill limit word words
      else
        let parts := chop limit [] word
        done ++ parts.dropLast ++ fill limit (parts.getLast?.getD []) words

/-- As much of a line as some columns can hold; a column that is left over stays empty. -/
def cut (columns : Nat) : Text → Text
  | [] => []
  | c :: t =>
    if Text.columns c ≤ columns then c :: cut (columns - Text.columns c) t
    else List.replicate columns ' '

/-- A line as it fits on the screen. Blanks at its end are left out as far as it has more characters
than the screen has columns; what is still too wide is cut. -/
def fit (limit : Nat) (line : Text) : Text :=
  let surplus := min (blanksAfter line).length (line.length - limit)
  cut limit (line.take (line.length - surplus))

/-- The lines that a text takes. -/
def layOut (limit : Nat) (t : Text) : List Text :=
  (Text.splitOn '\n' t).flatMap fun line =>
    (fill limit [] (words (expandTabs 0 line))).map (fit limit)

/-- Words lose nothing of a line. -/
theorem flatten_pieces (line : Text) : (pieces line).flatten = line := by
  induction line with
  | nil => rfl
  | cons c t ih =>
    unfold pieces
    split
    · next h =>
      rw [h] at ih
      simp_all
    · next piece rest h =>
      rw [h] at ih
      split <;> simp_all

/-- A word that is cut loses nothing. -/
theorem flatten_chop (limit : Nat) (part t : Text) :
    (chop limit part t).flatten = part ++ t := by
  induction t generalizing part with
  | nil => simp [chop]
  | cons c t ih =>
    unfold chop
    split <;> simp [ih]

end Console

end SecretScan
