import SecretScan.Decimal.Numeral
import SecretScan.Yaml.Fault
import SecretScan.Yaml.Place

/-!
# Quoted scalars

Between single quotes a quote is written twice and nothing else is special. Between double quotes a
backslash begins an escape. In both, a line break counts as one space and each further one as
itself, and the blanks around breaks do not count.
-/

namespace SecretScan.Yaml

/-- A part of a scalar. -/
structure Chunk where
  /-- What it stands for. -/
  text : Text
  /-- How many characters it takes. -/
  length : Nat

/-- The number that `n` hexadecimal digits stand for, continuing `value`. -/
def hexNumber? (value : Nat) : (n : Nat) → Text → Option Nat
  | 0, _ => some value
  | _ + 1, [] => none
  | n + 1, c :: t =>
    match Decimal.digitIn? 16 c with
    | some d => hexNumber? (16 * value + d) n t
    | none => none

/-- The character that a letter after a backslash stands for. -/
def escapedChar? (c : Char) : Option Char :=
  [('0', '\x00'), ('a', '\x07'), ('b', '\x08'), ('t', '\t'), ('\t', '\t'), ('n', '\n'),
   ('v', '\x0B'), ('f', '\x0C'), ('r', '\r'), ('e', '\x1B'), (' ', ' '), ('"', '"'),
   ('\\', '\\'), ('/', '/'), ('N', '\x85'), ('_', '\xA0'), ('L', '\u2028'), ('P', '\u2029')].lookup c

/-- How many hexadecimal digits follow a letter after a backslash. -/
def escapeWidth? (c : Char) : Option Nat :=
  [('x', 2), ('u', 4), ('U', 8)].lookup c

/-- The line breaks after a first one, and the blanks among them. No document may begin or end
inside a scalar. -/
def moreBreaks (t : Text) : Except Fault Chunk :=
  if atSeparator t then .error .malformed
  else
    let blanks := (t.takeWhile isBlankChar).length
    match _h : t.drop blanks with
    | [] => .ok ⟨[], blanks⟩
    | c :: rest =>
      if isBreak c then do
        let more ← moreBreaks rest
        return ⟨keptBreak c :: more.text, blanks + 1 + more.length⟩
      else .ok ⟨[], blanks⟩
termination_by t.length
decreasing_by
  have := congrArg List.length _h
  simp only [List.length_drop, List.length_cons] at this
  omega

/-- Blanks and breaks at the front of `t`. -/
def quotedGap (t : Text) : Except Fault Chunk :=
  let blanks := t.takeWhile isBlankChar
  match t.drop blanks.length with
  | [] => .error .malformed
  | c :: rest =>
    if isBreak c then do
      let more ← moreBreaks rest
      let first :=
        if keptBreak c ≠ '\n' then [keptBreak c] else if more.text.isEmpty then [' '] else []
      return ⟨first ++ more.text, blanks.length + 1 + more.length⟩
    else .ok ⟨blanks, blanks.length⟩

/-- An escape; `t` comes after the backslash. -/
def escape (t : Text) : Except Fault Chunk :=
  match t with
  | [] => .error .malformed
  | c :: t =>
    match escapedChar? c, escapeWidth? c with
    | some c, _ => .ok ⟨[c], 2⟩
    | none, some width =>
      match hexNumber? 0 width t with
      | some n =>
        if 0x7FFFFFFF < n then .error .hugeChar
        else if 0x10FFFF < n then .error .noSuchChar
        else .ok ⟨[Char.ofNat n], 2 + width⟩
      | none => .error .malformed
    | none, none =>
      if isBreak c then do
        let more ← moreBreaks t
        return ⟨more.text, 2 + more.length⟩
      else .error .malformed

/-- The next part of a scalar between double quotes, or else single quotes. -/
def quotedChunk (double : Bool) (c : Char) (t : Text) : Except Fault Chunk :=
  if isBlankChar c || isBreak c then quotedGap (c :: t)
  else if double && c = '\\' then escape t
  else if !double && c = '\'' then .ok ⟨[c], 2⟩
  else .ok ⟨[c], 1⟩

/-- Whether a scalar ends with `c`, where `t` comes next. -/
def isClosing (double : Bool) (c : Char) (t : Text) : Bool :=
  if double then c = '"' else c = '\'' && t.head? ≠ some '\''

/-- A scalar after its first quote. -/
def quotedScalar (double : Bool) : Text → Except Fault Chunk
  | [] => .error .malformed
  | c :: t =>
    if isClosing double c t then .ok ⟨[], 1⟩
    else do
      let chunk ← quotedChunk double c t
      let more ← quotedScalar double (t.drop (chunk.length - 1))
      return ⟨chunk.text ++ more.text, chunk.length + more.length⟩
termination_by t => t.length
decreasing_by simp only [List.length_drop, List.length_cons]; omega

end SecretScan.Yaml
