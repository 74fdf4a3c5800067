import SecretScan.Decimal.Numeral

/-!
# Strings and blanks in TOML

Strings stand between double quotes, where a backslash begins an escape, or between single quotes,
where nothing is special. Three quotes begin a string that may go over several lines. Only the tab
and, where lines may end, the newline are allowed among the control characters.
-/

namespace SecretScan.Toml

/-- Whether `c` is a space or a tab. -/
def isBlank (c : Char) : Bool :=
  c = ' ' || c = '\t'

/-- Whether `c` is a space, a tab or a newline. -/
def isBlankOrBreak (c : Char) : Bool :=
  isBlank c || c = '\n'

/-- Whether `c` may stand in a comment or in a string of one line. -/
def isVisible (c : Char) : Bool :=
  c = '\t' || (0x20 ≤ c.toNat && c.toNat ≠ 0x7F)

/-- The rest of a line with an optional comment, without its newline. -/
def afterComment : Text → Option Text
  | '#' :: t =>
    let rest := t.dropWhile (· ≠ '\n')
    if (t.takeWhile (· ≠ '\n')).all isVisible then some rest else none
  | t => some t

/-- What comes after blanks, newlines and comments. -/
def afterGap (inComment : Bool) : Text → Option Text
  | [] => some []
  | c :: t =>
    if c = '\n' then afterGap false t
    else if inComment then (if isVisible c then afterGap true t else none)
    else if isBlank c then afterGap false t
    else if c = '#' then afterGap true t
    else some (c :: t)

/-- The character with the code point that the first `n` characters of `t` spell. -/
def hexChar? (n : Nat) (t : Text) : Option Char := do
  let ds ← (t.take n).mapM (Decimal.digitIn? 16)
  let value := ds.foldl (fun v d => 16 * v + d) 0
  if ds.length = n && (value < 0xD800 || (0xE000 ≤ value && value ≤ 0x10FFFF)) then
    return Char.ofNat value
  else none

/-- The character that a letter after a backslash stands for. -/
def escapedChar? (c : Char) : Option Char :=
  [('b', '\x08'), ('t', '\t'), ('n', '\n'), ('f', '\x0C'), ('r', '\r'), ('"', '"'),
   ('\\', '\\')].lookup c

/-- What an escape stands for and how many characters it takes after the backslash. In a string of
several lines a backslash at the end of a line takes all blanks up to the next text. -/
def escape? (multiline : Bool) (t : Text) : Option (Text × Nat) :=
  match t with
  | [] => none
  | c :: rest =>
    if multiline && isBlankOrBreak c then
      let blanks := (t.takeWhile isBlank).length
      match t.drop blanks with
      | '\n' :: _ => some ([], (t.takeWhile isBlankOrBreak).length)
      | _ => none
    else if c = 'u' then (hexChar? 4 rest).map fun c => ([c], 5)
    else if c = 'U' then (hexChar? 8 rest).map fun c => ([c], 9)
    else (escapedChar? c).map fun c => ([c], 1)

/-- The rest of a string between double quotes, and what comes after it. -/
def basicString (multiline : Bool) : Text → Option (Text × Text)
  | [] => none
  | c :: t =>
    if c = '"' then
      if !multiline then some ([], t)
      else
        match t with
        | '"' :: '"' :: rest => some ([], rest)
        | t => (basicString multiline t).map fun (s, rest) => (c :: s, rest)
    else if c = '\\' then
      match escape? multiline t with
      | none => none
      | some (e, n) => (basicString multiline (t.drop n)).map fun (s, rest) => (e ++ s, rest)
    else if isVisible c || (multiline && c = '\n') then
      (basicString multiline t).map fun (s, rest) => (c :: s, rest)
    else none
termination_by t => t.length
decreasing_by all_goals simp only [List.length_drop, List.length_cons]; omega

/-- The rest of a string between single quotes, and what comes after it. -/
def literalString (multiline : Bool) : Text → Option (Text × Text)
  | [] => none
  | c :: t =>
    if c = '\'' && !multiline then some ([], t)
    else if c = '\'' && ['\'', '\''].isPrefixOf t then some ([], t.drop 2)
    else if isVisible c || (multiline && c = '\n') then
      (literalString multiline t).map fun (s, rest) => (c :: s, rest)
    else none

/-- A string of several lines without the newline that begins it and with up to two quotes that
end it. -/
def multilineString (quote : Char) (t : Text) : Option (Text × Text) := do
  let t := if t.head? = some '\n' then t.drop 1 else t
  let (s, rest) ← if quote = '"' then basicString true t else literalString true t
  let extra := (rest.take 2).takeWhile (· = quote)
  return (s ++ extra, rest.drop extra.length)

/-- A string that begins with the quote `quote`, after that quote. -/
def string (quote : Char) (t : Text) : Option (Text × Text) :=
  if [quote, quote].isPrefixOf t then multilineString quote (t.drop 2)
  else if quote = '"' then basicString false t
  else literalString false t

/-- Whether `c` can be part of a key without quotes. -/
def isKeyChar (c : Char) : Bool :=
  c.isAlphanum || c = '-' || c = '_'

/-- A part of a key, and what comes after it. -/
def keyPart (t : Text) : Option (Text × Text) :=
  match t with
  | [] => none
  | c :: rest =>
    if c = '"' then basicString false rest
    else if c = '\'' then literalString false rest
    else if isKeyChar c then some (t.takeWhile isKeyChar, t.dropWhile isKeyChar)
    else none

/-- A key, which is made of parts with points between them, and what comes after it and after
blanks; at most `fuel` parts are read. -/
def keyParts : (fuel : Nat) → Text → Option (List Text × Text)
  | 0, _ => none
  | fuel + 1, t => do
    let (part, rest) ← keyPart t
    match rest.dropWhile isBlank with
    | '.' :: rest =>
      let (parts, rest) ← keyParts fuel (rest.dropWhile isBlank)
      return (part :: parts, rest)
    | rest => return ([part], rest)

/-- A key, and what comes after it and after blanks. -/
def key (t : Text) : Option (List Text × Text) :=
  keyParts (t.length + 1) t

end SecretScan.Toml
