import SecretScan.Toml.Number
import SecretScan.Toml.Table
import SecretScan.Toml.Text

/-!
# TOML documents

A document is read line by line. A line opens a table, puts a value under a key of the open table,
or holds nothing but a comment. Of several faults in a document the first one counts.
-/

namespace SecretScan.Toml

mutual

/-- A value, and what comes after it; `fuel` bounds how deep values are nested. -/
def value : (fuel : Nat) → Text → Except Fault (Datum × Text)
  | 0, _ => .error .malformed
  | fuel + 1, t =>
    match t with
    | '"' :: rest => needed ((string '"' rest).map fun (s, rest) => (.text s, rest))
    | '\'' :: rest => needed ((string '\'' rest).map fun (s, rest) => (.text s, rest))
    | 't' :: 'r' :: 'u' :: 'e' :: rest => .ok (.bool true, rest)
    | 'f' :: 'a' :: 'l' :: 's' :: 'e' :: rest => .ok (.bool false, rest)
    | '[' :: rest => (arrayItems fuel rest).map fun (items, rest) => (.list items, rest)
    | '\x7b' :: rest =>
      match rest.dropWhile isBlank with
      | '\x7d' :: rest => .ok (.map [], rest)
      | rest =>
        (inlineEntries fuel [] rest).map fun (entries, rest) =>
          (.map (datumEntries entries), rest)
    | t =>
      match time? t with
      | some result => needed result
      | none => number t

/-- The items of an array up to its closing bracket. -/
def arrayItems : (fuel : Nat) → Text → Except Fault (List Datum × Text)
  | 0, _ => .error .malformed
  | fuel + 1, t => do
    match ← needed (afterGap false t) with
    | ']' :: rest => return ([], rest)
    | t =>
      let (item, rest) ← value fuel t
      match ← needed (afterGap false rest) with
      | ']' :: rest => return ([item], rest)
      | ',' :: rest =>
        let (items, rest) ← arrayItems fuel rest
        return (item :: items, rest)
      | _ => throw .malformed

/-- The entries between braces up to the closing one, added to those that come before. -/
def inlineEntries : (fuel : Nat) → Entries → Text → Except Fault (Entries × Text)
  | 0, _, _ => .error .malformed
  | fuel + 1, entries, t => do
    let (names, rest) ← needed (key t)
    match rest with
    | '=' :: rest =>
      let (d, rest) ← value fuel (rest.dropWhile isBlank)
      let entries ← needed (Entries.putValue 0 d entries names)
      match rest.dropWhile isBlank with
      | '\x7d' :: rest => return (entries, rest)
      | ',' :: rest => inlineEntries fuel entries (rest.dropWhile isBlank)
      | _ => throw .malformed
    | _ => throw .malformed

end

/-- A document that is being read. -/
structure Reading where
  /-- What has been read. -/
  entries : Entries
  /-- The name of the open table. -/
  header : List Text
  /-- How many headers have been read. -/
  sections : Nat

/-- The text after `mark`, if it begins with that. -/
def after? (mark : Text) (t : Text) : Option Text :=
  if mark.isPrefixOf t then some (t.drop mark.length) else none

/-- Reads a header, which ends with `close`; `opening` puts in the table that it names. -/
def readHeader (r : Reading) (t : Text) (close : Text)
    (opening : Text → Entries → Option Entries) : Option (Reading × Text) := do
  let (names, rest) ← key (t.dropWhile isBlank)
  let name ← names.getLast?
  let entries ← r.entries.update (opening name) names.dropLast
  return (⟨entries, names, r.sections + 1⟩, ← after? close rest)

/-- Reads a key with its value. -/
def readEntry (r : Reading) (t : Text) : Except Fault (Reading × Text) := do
  let (names, rest) ← needed (key t)
  let rest ← needed (after? ['='] rest)
  let (d, rest) ← value (2 * t.length + 2) (rest.dropWhile isBlank)
  let entries ← needed (r.entries.update (Entries.putValue r.sections d · names) r.header)
  return (⟨entries, r.header, r.sections⟩, rest)

/-- Reads what a line says, if it says something. -/
def readStatement (r : Reading) (t : Text) : Except Fault (Reading × Text) :=
  match t with
  | '[' :: '[' :: rest => needed (readHeader r rest [']', ']'] Entries.openNext)
  | '[' :: rest => needed (readHeader r rest [']'] Entries.openTable)
  | c :: _ => if c = '#' || c = '\n' then .ok (r, t) else readEntry r t
  | [] => .ok (r, t)

/-- Reads lines, `fuel` of them at most. -/
def readLines : (fuel : Nat) → Reading → Text → Except Fault Reading
  | 0, _, _ => .error .malformed
  | fuel + 1, r, t => do
    let (r, rest) ← readStatement r (t.dropWhile isBlank)
    match ← needed (afterComment (rest.dropWhile isBlank)) with
    | [] => return r
    | '\n' :: rest => readLines fuel r rest
    | _ => throw .malformed

/-- Line breaks of two characters as plain newlines. -/
def unifyBreaks : Text → Text
  | '\r' :: '\n' :: t => '\n' :: unifyBreaks t
  | c :: t => c :: unifyBreaks t
  | [] => []

/-- The table that a document holds. -/
def read (t : Text) : Except Fault Datum :=
  let t := unifyBreaks t
  (readLines (t.length + 1) ⟨[], [], 0⟩ t).map fun r => .map (datumEntries r.entries)

end SecretScan.Toml
