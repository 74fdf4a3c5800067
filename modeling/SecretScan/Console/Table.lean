import SecretScan.Console.Line

/-!
# Consoles

What is shown to people are lines and tables. Most of it is written in markup, and what puts it on
the screen does so in two steps: it reads the markup, then it lays out the text. Both steps are up
to the console, which is a parameter of all that is shown; one is at hand.

On that one a table has a title, a heavy frame around the names of its columns and a light one
around its rows. A column is as wide as its widest cell, and every cell has a space on either side.
-/

namespace SecretScan

namespace Console

/-! ## What is shown -/

/-- Where the text of a cell stands. -/
inductive Align where
  /-- At the left. -/
  | left
  /-- In the middle; a column that is left over is at the right. -/
  | centre
  /-- At the right. -/
  | right
deriving DecidableEq, Repr

/-- A column of a table. -/
structure Column where
  /-- Its name, in markup. -/
  name : Text
  /-- Where the text of its cells stands. -/
  align : Align := .left
  /-- Its least width. -/
  least : Nat := 0
  /-- Its width, if that does not depend on the cells. -/
  fixed : Option Nat := none

/-- What a table has in one place. -/
inductive Entry where
  /-- Something that is written in markup. -/
  | markup (t : Text)
  /-- Text as it is. -/
  | plain (t : Text)
deriving DecidableEq, Repr

/-- A table. -/
structure Table where
  /-- Its title, in markup. -/
  title : Text
  /-- Its columns. -/
  columns : List Column
  /-- Its rows. -/
  rows : List (List Entry)
  /-- Whether there is a line between any two rows. -/
  isRuled : Bool

/-- A table whose markup has been read. -/
structure Sheet where
  /-- Its title. -/
  title : Text
  /-- Its columns, each with its name and the texts below it. -/
  columns : List (Column × Text × List Text)
  /-- Whether there is a line between any two rows. -/
  isRuled : Bool

/-- Lines to be shown, or what is wrong with the markup they are written in. -/
abbrev Shown := Except MarkupError (List Text)

/-- All that is shown, up to the first markup that makes no sense. -/
def emit : List Shown → Text × Option MarkupError
  | [] => ([], none)
  | .error e :: _ => ([], some e)
  | .ok lines :: rest =>
    let (t, e) := emit rest
    (lines.flatMap (· ++ ['\n']) ++ t, e)

end Console

/-- What puts text on a screen. -/
structure Console where
  /-- The text that markup shows, or what is wrong with it. -/
  read : Text → Except MarkupError Text
  /-- The lines that a text takes on a screen with some columns. -/
  wrap : Nat → Text → List Text
  /-- The lines of a table. -/
  draw : Console.Sheet → List Text

namespace Console

/-- The lines that markup takes. -/
def shown (console : Console) (screen : Nat) (markup : Text) : Shown :=
  (console.read markup).map (console.wrap screen)

/-- The text of an entry of a table. -/
def Entry.read (console : Console) : Entry → Except MarkupError Text
  | markup t => console.read t
  | plain t => .ok t

/-- The name of a column and the texts below it. -/
def Table.readColumn (console : Console) (table : Table) (column : Column) (i : Nat) :
    Except MarkupError (Column × Text × List Text) := do
  let name ← console.read column.name
  let below ← table.rows.mapM fun row => (row[i]?.getD (.plain [])).read console
  return (column, name, below)

/-- A table with its markup read, column by column. -/
def Table.read (console : Console) (table : Table) : Except MarkupError Sheet := do
  let columns ← table.columns.zipIdx.mapM fun (column, i) => table.readColumn console column i
  return { title := ← console.read table.title, columns, isRuled := table.isRuled }

/-- The lines of a table. -/
def Table.shown (table : Table) (console : Console) : Shown :=
  (table.read console).map console.draw

/-! ## Drawing -/

/-- A cell by its lines. -/
abbrev Cell := List Text

/-- The cell that a text makes. -/
def Cell.ofText (t : Text) : Cell :=
  (Text.splitOn '\n' t).map (expandTabs 0)

/-- The width of a cell. -/
def Cell.width (cell : Cell) : Nat :=
  (cell.map Text.width).foldl max 0

/-- The width of a column with some cells. -/
def Column.width (column : Column) (cells : List Cell) : Nat :=
  column.fixed.getD ((cells.map Cell.width).foldl max column.least)

/-- Spaces. -/
def gap (n : Nat) : Text :=
  List.replicate n ' '

/-- A text in a place of some width. Blanks at its end do not count, unless it stands at the
left. -/
def Align.place (align : Align) (width : Nat) (t : Text) : Text :=
  let inner := trimEnd t
  let free := width - Text.width inner
  match align with
  | left => fit width t ++ gap (width - Text.width (fit width t))
  | centre => gap (free / 2) ++ inner ++ gap (free - free / 2)
  | right => gap free ++ inner

/-- The strokes of a line of a frame. -/
structure Strokes where
  /-- The stroke at the left end. -/
  first : Char
  /-- The stroke between two columns. -/
  between : Char
  /-- The stroke at the right end. -/
  last : Char

/-- Parts with strokes at both ends and between them. -/
def Strokes.join (s : Strokes) (parts : List Text) : Text :=
  s.first :: Text.join s.between parts ++ [s.last]

/-- A line of a frame over columns of some widths. -/
def rule (s : Strokes) (stroke : Char) (widths : List Nat) : Text :=
  s.join (widths.map fun width => List.replicate (width + 2) stroke)

/-- The lines of a row. -/
def row (stroke : Char) (aligns : List Align) (widths : List Nat) (cells : List Cell) :
    List Text :=
  let height := (cells.map List.length).foldl max 1
  (List.range height).map fun i =>
    (Strokes.mk stroke stroke stroke).join <|
      (aligns.zip (widths.zip cells)).map fun (align, width, cell) =>
        ' ' :: align.place width (cell[i]?.getD []) ++ [' ']

/-- Rows one below the other, with a line between any two of them if there is one. -/
def stack (between : Option Text) : List (List Text) → List Text
  | [] => []
  | [lines] => lines
  | lines :: rest => lines ++ between.toList ++ stack between rest

/-- The lines of a table. -/
def Sheet.lines (s : Sheet) : List Text :=
  let cells := s.columns.map fun (_, name, below) => (Cell.ofText name, below.map Cell.ofText)
  let aligns := s.columns.map fun (column, _) => column.align
  let widths := (s.columns.zip cells).map fun ((column, _), name, below) =>
    column.width (name :: below)
  let height := (cells.map fun (_, below) => below.length).foldl max 0
  let body := (List.range height).map fun i => cells.map fun (_, below) => below[i]?.getD []
  let between := if s.isRuled then some (rule ⟨'├', '┼', '┤'⟩ '─' widths) else none
  let top := rule ⟨'┏', '┳', '┓'⟩ '━' widths
  Align.centre.place top.length s.title :: top
    :: row '┃' aligns widths (cells.map Prod.fst)
    ++ rule ⟨'┡', '╇', '┩'⟩ '━' widths
    :: stack between (body.map (row '│' aligns widths))
    ++ [rule ⟨'└', '┴', '┘'⟩ '─' widths]

/-- The console that is at hand. It passes on no controls. -/
def usual : Console where
  read markup := (Markup.shown markup).map (·.filter fun c => !isDropped c)
  wrap := layOut
  draw := Sheet.lines

end Console

end SecretScan
