import SecretScan.Yaml.Property
import SecretScan.Yaml.Scalar.Block
import SecretScan.Yaml.Scalar.Plain

/-!
# Tokens

A document is made of tokens. Where indentation opens or closes a collection a token says so, and a
simple key, which is known to be one only when its colon comes, gets its token in front of it. So
the tokens alone tell the structure.
-/

namespace SecretScan.Yaml

/-- A token. -/
inductive Token where
  /-- A directive. -/
  | directive (d : Directive)
  /-- The beginning of a document. -/
  | documentStart
  /-- The end of a document. -/
  | documentEnd
  /-- A deeper indentation with the items of a list. -/
  | blockList
  /-- A deeper indentation with the entries of a mapping. -/
  | blockMap
  /-- The end of a deeper indentation. -/
  | blockEnd
  /-- An opening square bracket. -/
  | listOpen
  /-- A closing square bracket. -/
  | listClose
  /-- An opening brace. -/
  | mapOpen
  /-- A closing brace. -/
  | mapClose
  /-- The dash before an item. -/
  | item
  /-- A comma. -/
  | comma
  /-- A key comes next. -/
  | key
  /-- A value comes next. -/
  | value
  /-- An alias. -/
  | alias (name : Text)
  /-- An anchor. -/
  | anchor (name : Text)
  /-- A tag. -/
  | tag (t : WrittenTag)
  /-- A scalar; a plain one is written without quotes. -/
  | scalar (value : Text) (plain : Bool)
  /-- What cannot be a token. -/
  | broken (f : Fault)

/-- Where a simple key may have begun. -/
structure Candidate where
  /-- How many tokens come before it. -/
  number : Nat
  /-- Whether it has to be a key. -/
  required : Bool
  /-- The place where it begins. -/
  place : Place

/-- The state of reading tokens. -/
structure Lexer where
  /-- Where the rest of the document begins. -/
  place : Place
  /-- The indentation of the innermost open block; outside of all it is -1. -/
  indent : Int
  /-- The indentations of the blocks around it. -/
  outerIndents : List Int
  /-- Whether a simple key may begin here. -/
  keyAllowed : Bool
  /-- The simple key that may have begun inside the innermost brackets. -/
  candidate : Option Candidate
  /-- Those that may have begun around the brackets, one for each open bracket. -/
  outerCandidates : List (Option Candidate)
  /-- The tokens so far, the last one first. -/
  tokens : List Token

namespace Lexer

/-- The state at the beginning of a document. -/
def start (t : Text) : Lexer :=
  ⟨.start t, -1, [], true, none, [], []⟩

/-- Whether the place is inside brackets. -/
def inFlow (x : Lexer) : Bool :=
  !x.outerCandidates.isEmpty

/-- The column of the place. -/
def column (x : Lexer) : Int :=
  x.place.column

/-- Adds a token. -/
def emit (x : Lexer) (t : Token) : Lexer :=
  { x with tokens := t :: x.tokens }

/-- Puts in a token after the first `number` ones. -/
def insert (x : Lexer) (number : Nat) (t : Token) : Lexer :=
  let later := x.tokens.length - number
  { x with tokens := x.tokens.take later ++ t :: x.tokens.drop later }

/-- Passes over `n` characters. -/
def skip (x : Lexer) (n : Nat) : Lexer :=
  { x with place := x.place.skip n }

/-- Adds a token of `n` characters. -/
def take (x : Lexer) (n : Nat) (t : Token) : Lexer :=
  (x.emit t).skip n

/-- The open blocks that are not deeper than `column`, and how many deeper ones are closed. -/
def unwound (column indent : Int) : List Int → Int × List Int × Nat
  | [] => (indent, [], 0)
  | outer :: outers =>
    if column < indent then
      let (indent, outers, n) := unwound column outer outers
      (indent, outers, n + 1)
    else (indent, outer :: outers, 0)

/-- Closes the blocks that are deeper than `column`. Brackets hold them open. -/
def unwind (x : Lexer) (column : Int) : Lexer :=
  if x.inFlow then x
  else
    let (indent, outerIndents, n) := unwound column x.indent x.outerIndents
    { x with indent, outerIndents, tokens := List.replicate n .blockEnd ++ x.tokens }

/-- Whether a block that begins at `column` is deeper than the innermost open one. -/
def opens (x : Lexer) (column : Int) : Bool :=
  x.indent < column

/-- Opens a block at `column`. -/
def deepen (x : Lexer) (column : Int) : Lexer :=
  { x with indent := column, outerIndents := x.indent :: x.outerIndents }

/-- Gives up the simple key that may have begun. -/
def dropCandidate (x : Lexer) : Except Fault Lexer :=
  match x.candidate with
  | some ⟨_, true, _⟩ => .error .malformed
  | _ => .ok { x with candidate := none }

/-- Notes that a simple key may begin here. -/
def noteCandidate (x : Lexer) : Except Fault Lexer :=
  if x.keyAllowed then do
    let x ← x.dropCandidate
    let required := !x.inFlow && x.indent = x.column
    return { x with candidate := some ⟨x.tokens.length, required, x.place⟩ }
  else .ok x

/-- How long a simple key may be. -/
def maxKeyLength : Nat := 1024

/-- The candidate, if its colon can still come: on its line and not too far away. -/
def fresh (p : Place) : Option Candidate → Except Fault (Option Candidate)
  | none => .ok none
  | some c =>
    if c.place.line ≠ p.line || c.place.index + maxKeyLength < p.index then
      if c.required then .error .malformed else .ok none
    else .ok (some c)

/-- Gives up all simple keys whose colon cannot come any more. -/
def refresh (x : Lexer) : Except Fault Lexer := do
  let candidate ← fresh x.place x.candidate
  let outerCandidates ← x.outerCandidates.mapM (fresh x.place)
  return { x with candidate, outerCandidates }

/-- How many tokens can be told apart for good. A token that may turn out to begin a simple key, and
those after it, are not known before the colon has come or can no longer come. -/
def settled (x : Lexer) : Nat :=
  let numbers := (x.candidate :: x.outerCandidates).filterMap fun c =>
    ((fresh x.place c).toOption.bind id).map Candidate.number
  numbers.foldl min x.tokens.length

/-- The length of the spaces, comments and line breaks at the front of `t`, and whether there is a
line break among them. -/
def gapLength (inComment : Bool) : Text → Nat × Bool
  | [] => (0, false)
  | c :: t =>
    if isBreak c then ((gapLength false t).1 + 1, true)
    else if inComment || c = ' ' then
      let (n, broken) := gapLength inComment t
      (n + 1, broken)
    else if c = '#' then
      let (n, broken) := gapLength true t
      (n + 1, broken)
    else (0, false)

/-- Goes to the next token. Outside of brackets a simple key may begin on a new line. -/
def skipGap (x : Lexer) : Lexer :=
  let (n, broken) := gapLength false x.place.rest
  { x.skip n with keyAllowed := x.keyAllowed || (broken && !x.inFlow) }

/-- A token outside of all blocks. -/
def outermost (x : Lexer) (n : Nat) (t : Token) : Except Fault Lexer := do
  let x ← (x.unwind (-1)).dropCandidate
  return { x.take n t with keyAllowed := false }

/-- An opening bracket. -/
def openFlow (x : Lexer) (t : Token) : Except Fault Lexer := do
  let x ← x.noteCandidate
  return { x.take 1 t with
    candidate := none, outerCandidates := x.candidate :: x.outerCandidates, keyAllowed := true }

/-- A closing bracket. -/
def closeFlow (x : Lexer) (t : Token) : Except Fault Lexer := do
  let x ← x.dropCandidate
  match x.outerCandidates with
  | [] => .error .malformed
  | candidate :: outerCandidates =>
    return { x.take 1 t with candidate, outerCandidates, keyAllowed := false }

/-- A comma. -/
def comma (x : Lexer) : Except Fault Lexer := do
  let x ← x.dropCandidate
  return { x.take 1 .comma with keyAllowed := true }

/-- Opens a block at the place if it is deeper than the innermost one. A block can only begin where
a simple key could. -/
def openBlock (x : Lexer) (t : Token) : Except Fault Lexer :=
  if x.inFlow then .ok x
  else if !x.keyAllowed then .error .malformed
  else if x.opens x.column then .ok ((x.deepen x.column).emit t)
  else .ok x

/-- The dash before an item. -/
def item (x : Lexer) : Except Fault Lexer := do
  let x ← (← x.openBlock .blockList).dropCandidate
  return { x.take 1 .item with keyAllowed := true }

/-- A question mark before a key. -/
def key (x : Lexer) : Except Fault Lexer := do
  let x ← (← x.openBlock .blockMap).dropCandidate
  return { x.take 1 .key with keyAllowed := !x.inFlow }

/-- The colon before a value. A simple key before it gets its token, and may open a block. -/
def value (x : Lexer) : Except Fault Lexer :=
  match x.candidate with
  | some c =>
    let x := { x with candidate := none, keyAllowed := false }.insert c.number .key
    let column : Int := c.place.column
    let x := if !x.inFlow && x.opens column then (x.deepen column).insert c.number .blockMap else x
    .ok (x.take 1 .value)
  | none => do
    let x ← (← x.openBlock .blockMap).dropCandidate
    return { x.take 1 .value with keyAllowed := !x.inFlow }

/-- A token that can begin a simple key: `read` tells what it is and how many characters it
takes. -/
def keyPart (x : Lexer) (read : Except Fault (Token × Nat)) : Except Fault Lexer := do
  let x ← x.noteCandidate
  let (t, n) ← read
  return { x.take n t with keyAllowed := false }

/-- The text after the first character. -/
def after (x : Lexer) : Text :=
  x.place.rest.drop 1

/-- A block scalar. -/
def blockScalar (x : Lexer) (folded : Bool) : Except Fault Lexer := do
  let x ← x.dropCandidate
  let least := max 1 (x.indent + 1).toNat
  let (text, place) ← Yaml.blockScalar folded least x.place.next
  return { x.emit (.scalar text false) with place, keyAllowed := true }

/-- A plain scalar. -/
def plain (x : Lexer) : Except Fault Lexer := do
  let x ← x.noteCandidate
  let s := plainScalar x.inFlow (x.indent + 1).toNat x.place
  return { x.emit (.scalar s.text true) with place := s.place, keyAllowed := s.broken }

/-- Whether a plain scalar can begin with `c`, where `t` comes next. -/
def beginsPlain (x : Lexer) (c : Char) (t : Text) : Bool :=
  !(isBlankChar c || isBreak c || c ∈ "-?:,[]\x7b\x7d#&*!|>'\"%@\x60".toList)
    || (!atGap t && (c = '-' || (!x.inFlow && (c = '?' || c = ':'))))

/-- A directive with the rest of its line. -/
def directive (t : Text) : Except Fault (Directive × Nat) := do
  let (d, n) ← directiveAt t
  return (d, n + 1 + (← lineRemainder (t.drop n)))

/-- Reads the token that begins with `c`; `x` is at that character. -/
def token (x : Lexer) (c : Char) : Except Fault Lexer :=
  let rest := x.place.rest
  let t := x.after
  let lineStart := x.place.column = 0
  let chunk (f : Text → Token) (read : Except Fault Chunk) : Except Fault Lexer :=
    x.keyPart (read.map fun s => (f s.text, s.length + 1))
  if c = '%' && lineStart then do
    let (d, n) ← directive t
    x.outermost n (.directive d)
  else if lineStart && atMark "---" rest then x.outermost 3 .documentStart
  else if lineStart && atMark "..." rest then x.outermost 3 .documentEnd
  else if c = '[' then x.openFlow .listOpen
  else if c = '\x7b' then x.openFlow .mapOpen
  else if c = ']' then x.closeFlow .listClose
  else if c = '\x7d' then x.closeFlow .mapClose
  else if c = ',' then x.comma
  else if c = '-' && atGap t then x.item
  else if c = '?' && (x.inFlow || atGap t) then x.key
  else if c = ':' && (x.inFlow || atGap t) then x.value
  else if c = '*' then chunk .alias (anchorName t)
  else if c = '&' then chunk .anchor (anchorName t)
  else if c = '!' then x.keyPart ((tagAt rest).map fun (tag, n) => (.tag tag, n))
  else if c = '|' && !x.inFlow then x.blockScalar false
  else if c = '>' && !x.inFlow then x.blockScalar true
  else if c = '\'' then chunk (.scalar · false) (quotedScalar false t)
  else if c = '"' then chunk (.scalar · false) (quotedScalar true t)
  else if x.beginsPlain c t then x.plain
  else .error .malformed

/-- The tokens of the rest of a document. Each step takes at least one character, so as many steps
as there are characters are enough. A fault takes the place of the tokens that were not known. -/
def run : Nat → Lexer → List Token
  | 0, x => x.tokens.reverse
  | fuel + 1, x =>
    let stop (f : Fault) := x.tokens.reverse.take x.settled ++ [.broken f]
    match x.skipGap.refresh with
    | .error f => stop f
    | .ok x =>
      match x.place.rest with
      | [] =>
        let x := x.unwind (-1)
        match x.dropCandidate with
        | .error f => stop f
        | .ok x => x.tokens.reverse
      | c :: _ =>
        match (x.unwind x.column).token c with
        | .error f => stop f
        | .ok x => run fuel x

end Lexer

/-- The tokens of a document; if it cannot be read to its end, the last one says why. -/
def tokens (t : Text) : List Token :=
  if t.all isAllowed then Lexer.run (t.length + 1) (.start t) else [.broken .malformed]

end SecretScan.Yaml
