import SecretScan.Pattern.Edit
import SecretScan.Text.Alnum
import SecretScan.Text.Blank

/-!
# Comments in patterns

A pattern may hold comment groups `(?#…)`. In free-spacing mode a `#` at the start of a line or
after a blank begins a comment that runs to the end of the line. Outside that mode only one form of
line comment is recognised: a blank, a `#`, and then nothing but words up to the end of the line.
-/

namespace SecretScan.Pattern

/-- Removes a comment group; one that is never closed is left as it is, with all that follows. -/
def commentGroupEdit (w : Walk) : Edit Unit :=
  if w.atSyntax '(' && w.startsWith ['(', '?', '#'] 0 then
    match w.text.indexFrom? ')' (w.pos + 3) with
    | some close => .replace [] (close + 1) ()
    | none => .stop w.rest
  else .keep

/-- Removes every comment group. -/
def stripCommentGroups (pattern : Text) : Text :=
  (edit commentGroupEdit pattern).1

/-- Whether a line comment may begin at the position: at the start or after a blank. -/
def Walk.atWordStart (w : Walk) : Bool :=
  match w.pos with
  | 0 => true
  | before + 1 => (w.text[before]?).any Text.isBlank

/-- Removes a line comment of free-spacing mode and keeps the newline. -/
def lineCommentEdit (w : Walk) : Edit Unit :=
  if w.atSyntax '#' && w.atWordStart then
    match w.text.indexFrom? '\n' w.pos with
    | some newline => .replace [] newline ()
    | none => .stop []
  else .keep

/-- Removes the line comments of a free-spacing pattern. -/
def stripLineComments (pattern : Text) : Text :=
  (edit lineCommentEdit pattern).1

/-- Whether only words and blanks follow offset `i` of `line`. -/
def onlyWordsFrom (line : Text) (i : Nat) : Bool :=
  (line.drop i).all fun c => Text.isBlank c || Text.isWordChar c

/-- Where the trailing comment of a line begins, given the token before and the tokens to come. -/
def trailingComment? (line : Text) : Token → List Token → Option Nat
  | _, [] => none
  | previous, t :: ts =>
    if t.isSyntax '#' && previous.kind = .char && Text.isBlank previous.char
        && onlyWordsFrom line (t.index + 1) then
      some previous.index
    else trailingComment? line t ts

/-- Removes a trailing comment together with the blank before it. -/
def stripTrailingComment (line : Text) : Text :=
  match tokens line with
  | [] => line
  | first :: rest =>
    match trailingComment? line first rest with
    | some cut => line.take cut
    | none => line

/-- Removes the comments of a pattern: comment groups always, then line comments as free-spacing
mode (`extended`) or its absence allows. -/
def stripComments (pattern : Text) (extended : Bool) : Text :=
  let pattern := stripCommentGroups pattern
  if extended then stripLineComments pattern
  else Text.join '\n' ((Text.splitOn '\n' pattern).map stripTrailingComment)

end SecretScan.Pattern
