import SecretScan.Regex.Identifier
import SecretScan.Regex.Reader

/-!
# Reading a pattern

`parse` reads the native form of a pattern. The notation: literals and escapes, classes with ranges,
named items and negation, `.`, anchors, repetitions in their greedy, lazy and possessive forms,
groups with and without capture, back references, look-ahead, look-behind and alternation.

Inside a class only `]`, `\\`, `-` between two characters and named items are special, and a `]`
that comes first is a member.
-/

namespace SecretScan.Regex

/-- What an escape stands for. -/
inductive Escape where
  /-- A code point. -/
  | char (n : Nat)
  /-- A class with a name. -/
  | property (p : Property) (positive : Bool)
  /-- An anchor. -/
  | anchor (a : Anchor)
  /-- A back reference. -/
  | group (ref : GroupRef)

/-- Whether `c` is an octal digit. -/
def isOctal (c : Char) : Bool := '0' ≤ c && c ≤ '7'

/-- Whether `c` is a hexadecimal digit. -/
def isHex (c : Char) : Bool :=
  c.isDigit || ('a' ≤ c && c ≤ 'f') || ('A' ≤ c && c ≤ 'F')

/-- The value of a hexadecimal digit. -/
def hexDigit (c : Char) : Nat :=
  if c.isDigit then c.toNat - 48 else c.toNat % 32 + 9

/-- The value of digits in a base. -/
def valueIn (base : Nat) (ds : Text) : Nat :=
  ds.foldl (fun n c => base * n + hexDigit c) 0

/-- The anchors that are written as an escape. -/
def anchorEscape? : Char → Option Anchor
  | 'A' => some .textStart
  | 'Z' => some .textEnd
  | 'b' => some .wordBoundary
  | 'B' => some .noWordBoundary
  | 'm' => some .wordStart
  | 'M' => some .wordEnd
  | _ => none

/-- The classes that are written as an escape. -/
def classEscape? : Char → Option Escape
  | 'd' => some (.property .digit true)
  | 'D' => some (.property .digit false)
  | 's' => some (.property .space true)
  | 'S' => some (.property .space false)
  | 'w' => some (.property .word true)
  | 'W' => some (.property .word false)
  | 'h' => some (.property .blank true)
  | _ => none

/-- The characters that are written as an escaped letter. -/
def letterEscape? : Char → Option Nat
  | 'a' => some 7
  | 'b' => some 8
  | 'f' => some 12
  | 'n' => some 10
  | 'r' => some 13
  | 't' => some 9
  | 'v' => some 11
  | _ => none

/-- How many hexadecimal digits follow an escaped letter. -/
def hexWidth? : Char → Option Nat
  | 'x' => some 2
  | 'u' => some 4
  | 'U' => some 8
  | _ => none

/-- An escape by number, after the letter `c`. -/
def readHex (c : Char) (width : Nat) (r : Reader) : Except Interrupt (Escape × Reader) :=
  let ds := (r.rest.take width).takeWhile isHex
  if ds.length < width then r.refuse (.incompleteEscape (c :: ds))
  else
    let n := valueIn 16 ds
    if n < 0x110000 then .ok (.char n, r.advance width) else r.refuse (.badHexEscape (c :: ds))

/-- Notes a back reference. -/
def readRef (ref : GroupRef) (place : Nat) (r : Reader) : Except Interrupt (Escape × Reader) :=
  if r.isOpen ref then r.refuse .openGroup
  else .ok (.group ref, { r with refs := (ref, place) :: r.refs })

/-- An escaped digit `c`: three octal digits, an octal number after `0` or inside a class, or else
the number of a group. -/
def readDigits (c : Char) (inClass : Bool) (r : Reader) : Except Interrupt (Escape × Reader) :=
  let octal := (r.rest.take 2).takeWhile isOctal
  if inClass || c = '0' then
    if isOctal c then .ok (.char (valueIn 8 (c :: octal)), r.advance octal.length)
    else r.refuse (.badEscape c)
  else if isOctal c && octal.length = 2 then
    .ok (.char (valueIn 8 (c :: octal) % 0x200), r.advance 2)
  else
    let more := (r.rest.take 1).takeWhile Char.isDigit
    let r := r.advance more.length
    readRef (.number (valueIn 10 (c :: more))) r.pos r

/-- A group name, up to a `)` or `>`. In a reference it may be a number. -/
def readName (numeric : Bool) (r : Reader) : Except Interrupt (GroupRef × Reader) :=
  let (name, r) := r.span fun c => c ≠ ')' && c ≠ '>'
  if name.isEmpty then r.refuse .missingGroupName
  else if name.all Char.isDigit then
    let n := valueIn 10 name
    if numeric && 0 < n then .ok (.number n, r) else r.refuse .badGroupName
  else if isIdentifier name then .ok (.name name, r)
  else r.refuse .badGroupName

/-- The reference `<name>` of the escape `\\g`. -/
def readAngled (r : Reader) : Except Interrupt (Escape × Reader) := do
  let r ← r.expect '<'
  let place := r.pos
  let (ref, r) ← readName true r
  let r ← r.expect '>'
  readRef ref place r

/-- Whether `c` may stand in the name of a property. -/
def isPropertyChar (c : Char) : Bool :=
  c.isAlphanum || " &_-.".toList.contains c

/-- A property in braces; without braces the letter stands for itself. -/
def readProperty (positive : Bool) (r : Reader) : Except Interrupt (Escape × Reader) :=
  let letter := if positive then 'p' else 'P'
  let literal := .ok (.char letter.toNat, r)
  match r.accept? ['{'] with
  | none => literal
  | some inner =>
    let (negate, inner) := inner.negation
    let (name, inner) := inner.span isPropertyChar
    match inner.accept? ['}'] with
    | none => literal
    | some inner =>
      match Property.ofName? name false with
      | some p => .ok (.property p (positive != negate), inner)
      | none => inner.refuse .unknownProperty

/-- What follows a backslash. -/
def readEscape (inClass : Bool) (r : Reader) : Except Interrupt (Escape × Reader) :=
  match r.rest with
  | [] => r.refuse .trailingBackslash
  | c :: _ =>
    let next := r.advance 1
    match hexWidth? c with
    | some width => readHex c width next
    | none =>
      if c = 'g' && !inClass then
        match readAngled next with
        | .ok result => .ok result
        | .error _ => .ok (.char c.toNat, next)
      else if c = 'p' || c = 'P' then readProperty (c = 'p') next
      else if c.isAlpha then
        match if inClass then none else anchorEscape? c with
        | some a => .ok (.anchor a, next)
        | none =>
          match classEscape? c, letterEscape? c with
          | some e, _ => .ok (e, next)
          | none, some n => .ok (.char n, next)
          | none, none => next.refuse (.badEscape c)
      else if c.isDigit then readDigits c inClass next
      else .ok (.char c.toNat, next)

/-- A named item after `[:`. Text that only looks like one gives `none`. -/
def readNamedItem? (r : Reader) : Except Interrupt (Option (ClassItem × Reader)) :=
  let (negate, r) := r.negation
  let (name, r) := r.span isPropertyChar
  match r.accept? [':', ']'] with
  | none => .ok none
  | some r =>
    match Property.ofName? name true with
    | some p => .ok (some (.property p !negate, r))
    | none => r.refuse .unknownProperty

/-- One member of a class, a range not yet recognised. -/
def readClassItem (r : Reader) : Except Interrupt (ClassItem × Reader) := do
  match r.rest with
  | [] => r.refuse .unterminatedClass
  | '\\' :: _ =>
    let (escape, r) ← readEscape true (r.advance 1)
    match escape with
    | .char n => return (.char n, r)
    | .property p positive => return (.property p positive, r)
    | _ => r.refuse .unterminatedClass
  | c :: _ =>
    let named ← match r.accept? ['[', ':'] with
      | some inner => readNamedItem? inner
      | none => pure none
    match named with
    | some result => return result
    | none => return (.char c.toNat, r.advance 1)

/-- A member of a class or a range. A `-` before the closing bracket, or next to a named item,
stands for itself. -/
def readClassMember (r : Reader) : Except Interrupt (List ClassItem × Reader) := do
  let (first, r) ← readClassItem r
  match first, r.accept? ['-'] with
  | .char low, some next =>
    match next.rest with
    | ']' :: _ => return ([first, .char '-'.toNat], next)
    | _ =>
      let (last, next) ← readClassItem next
      match last with
      | .char high =>
        if high < low then next.refuse .badRange
        else return ([.range low high], next)
      | _ => return ([first, .char '-'.toNat, last], next)
  | _, _ => return ([first], r)

/-- The members of a class up to its closing bracket. `n` bounds the number of members. -/
def readClassMembers : Nat → List ClassItem → Reader → Except Interrupt (List ClassItem × Reader)
  | 0, _, r => r.refuse .unterminatedClass
  | n + 1, items, r => do
    let (more, r) ← readClassMember r
    let items := items ++ more
    match r.accept? [']'] with
    | some r => return (items, r)
    | none => readClassMembers n items r

/-- A class, after its opening bracket. -/
def readClass (r : Reader) : Except Interrupt (Node × Reader) := do
  let (negate, r) := r.negation
  let (items, r) ← readClassMembers (r.rest.length + 1) [] r
  return (.chars (.ofItems items (!negate) r.flags.ignoreCase), r)

/-- The largest bound of a repetition. -/
def maxRepeat : Nat := 4294967294

/-- The bounds in braces, after the opening brace. Text that only looks like bounds gives `none`. -/
def readBounds? (r : Reader) : Except Interrupt (Option ((Nat × Option Nat) × Reader)) :=
  let (least, next) := r.span Char.isDigit
  let (bounds, next) := match next.accept? [','] with
    | some next =>
      let (most, next) := next.span Char.isDigit
      (some (valueIn 10 least, if most.isEmpty then none else some (valueIn 10 most)), next)
    | none =>
      (if least.isEmpty then none else some (valueIn 10 least, some (valueIn 10 least)), next)
  match bounds, next.accept? ['}'] with
  | some (least, most), some next =>
    if maxRepeat < least || most.any (maxRepeat < ·) then r.refuse .repeatTooBig
    else if most.any (· < least) then r.refuse .repeatOrder
    else .ok (some ((least, most), next))
  | _, _ => .ok none

/-- The bounds of the repetition that begins with `c`, with the state after it. -/
def readQuantifier? (c : Char) (r : Reader) :
    Except Interrupt (Option ((Nat × Option Nat) × Reader)) :=
  match c with
  | '*' => .ok (some ((0, none), r))
  | '+' => .ok (some ((1, none), r))
  | '?' => .ok (some ((0, some 1), r))
  | '{' => readBounds? r
  | _ => .ok none

/-- The suffix that tells how greedy a repetition is. -/
def readGreed (r : Reader) : Greed × Reader :=
  match r.rest with
  | '?' :: _ => (.lazy, r.advance 1)
  | '+' :: _ => (.possessive, r.advance 1)
  | _ => (.greedy, r)

/-- The parts in the order of the text; `done` has them in reverse. -/
def seqOf (done : List Node) : Node :=
  done.foldl (fun after part => .seq part after) .empty

/-- A literal character. -/
def literal (c : Char) (r : Reader) : Node :=
  .chars ⟨[.char c.toNat], true, r.flags.ignoreCase⟩

/-- The node of an escape outside classes. -/
def ofEscape (e : Escape) (r : Reader) : Node :=
  match e with
  | .char n => .chars ⟨[.char n], true, r.flags.ignoreCase⟩
  | .property p positive => .chars ⟨[.property p true], positive, r.flags.ignoreCase⟩
  | .anchor a => .anchor a
  | .group ref => .backref ref r.flags.ignoreCase

/-- The node of a character that is special outside classes, repetitions and parentheses apart. -/
def ofSpecial? (c : Char) (r : Reader) : Option Node :=
  match c with
  | '.' => some (.chars ⟨if r.flags.dotAll then [] else [.char 10], false, false⟩)
  | '^' => some (.anchor (if r.flags.multiline then .lineStart else .textStart))
  | '$' => some (.anchor (if r.flags.multiline then .lineEnd else .lastLineEnd))
  | _ => none

/-- The letters that may stand among flags. -/
def isFlagLetter (c : Char) : Bool :=
  "imsxuafwLbepr".toList.contains c

/-- The flags among letters. -/
def flagsOf (letters : Text) : Flags :=
  ⟨letters.contains 'i', letters.contains 'm', letters.contains 's'⟩

/-- Flags after `(?`, to be switched on and off. -/
def readFlags (r : Reader) : Except Interrupt ((Text × Text) × Reader) := do
  let (on, r) := r.span isFlagLetter
  match r.accept? ['-'] with
  | none => return ((on, []), r)
  | some r =>
    let (off, r) := r.span isFlagLetter
    if off.isEmpty then r.refuse .noFlagsOff
    else if on.any off.contains then r.refuse .flagOnAndOff
    else return ((on, off), r)

/-- The flags in force inside a group that switches some on and some off. -/
def Flags.adjust (flags : Flags) (on off : Text) : Flags :=
  let on := flags.union (flagsOf on)
  let off := flagsOf off
  ⟨on.ignoreCase && !off.ignoreCase, on.multiline && !off.multiline, on.dotAll && !off.dotAll⟩

/-- How a group begins, after its parenthesis. -/
inductive Opening where
  /-- A group that remembers its text. -/
  | capture (group : Nat)
  /-- A group that only holds together. -/
  | plain
  /-- A look-ahead or look-behind. -/
  | look (behind positive : Bool)
  /-- A group that keeps its first way to match. -/
  | atomic
  /-- A complete element: a back reference, or nothing for a comment or a flag. -/
  | element (node : Option Node)

/-- A named group after `<`. -/
def readNamedGroup (r : Reader) : Except Interrupt (Opening × Reader) := do
  let (ref, r) ← readName false r
  let name := match ref with
    | .name name => name
    | .number _ => []
  let (group, r) := r.openGroup (some name)
  let r ← r.expect '>'
  return (.capture group, r)

/-- Flags after `(?`: for the group that follows, or for the whole pattern. -/
def readFlagGroup (r : Reader) : Except Interrupt (Opening × Reader) := do
  let ((on, off), r) ← readFlags r
  match r.rest with
  | ':' :: _ => return (.plain, { r.advance 1 with flags := r.flags.adjust on off })
  | ')' :: _ =>
    let r := r.advance 1
    let flags := r.flags.union (flagsOf on)
    if !off.isEmpty then r.refuse .flagOff
    else if flags = r.flags then return (.element none, r)
    else .error (.flagsFound flags)
  | _ => r.refuse .unknownExtension

/-- The beginning of a group, after its parenthesis. -/
def readOpening (r : Reader) : Except Interrupt (Opening × Reader) := do
  match r.rest with
  | '?' :: '<' :: '=' :: _ => return (.look true true, r.advance 3)
  | '?' :: '<' :: '!' :: _ => return (.look true false, r.advance 3)
  | '?' :: '<' :: _ => readNamedGroup (r.advance 2)
  | '?' :: '=' :: _ => return (.look false true, r.advance 2)
  | '?' :: '!' :: _ => return (.look false false, r.advance 2)
  | '?' :: '>' :: _ => return (.atomic, r.advance 2)
  | '?' :: 'P' :: '<' :: _ => readNamedGroup (r.advance 3)
  | '?' :: 'P' :: '=' :: _ =>
    let place := r.pos + 2
    let (ref, r) ← readName true (r.advance 3)
    let r ← r.expect ')'
    let (escape, r) ← match readRef ref place r with
      | .ok result => .ok result
      | .error _ => .error (.refused ⟨.openGroup, place⟩)
    return (.element (some (ofEscape escape r)), r)
  | '?' :: 'P' :: _ => (r.advance 2).refuse .unknownExtension
  | '?' :: '#' :: _ =>
    let (_, r) := (r.advance 2).span (· ≠ ')')
    let r ← r.expect ')'
    return (.element none, r)
  | '?' :: _ => readFlagGroup (r.advance 1)
  | '*' :: c :: _ =>
    if c.isAlpha then (r.advance 1).refuse .unknownVerb
    else
      let (group, r) := r.openGroup none
      return (.capture group, r)
  | _ =>
    let (group, r) := r.openGroup none
    return (.capture group, r)

/-- Applies a repetition to the element before it. Where there is none, the pattern is refused at
the offset `place` of the repetition. -/
def repeated (place : Nat) (done : List Node) (last : Option Node) (bounds : Nat × Option Nat)
    (greed : Greed) : Except Interrupt Node :=
  match last with
  | some body => .ok (.rep body bounds.1 bounds.2 greed)
  | none =>
    .error (.refused ⟨if done.isEmpty then .nothingToRepeat else .multipleRepeat, place⟩)

mutual

/-- Alternatives, up to a closing parenthesis or the end. `n` bounds the depth of the reading. -/
def readAlternatives : Nat → Reader → Except Interrupt (Node × Reader)
  | 0, r => r.refuse .unbalanced
  | n + 1, r => do
    let (first, r) ← readSequence n [] none r
    match r.accept? ['|'] with
    | none => return (first, r)
    | some r =>
      let (others, r) ← readAlternatives n r
      return (.alt first others, r)

/-- Elements one after the other. `last` is the element read last, if it can still be repeated, and
`done` holds those before it in reverse. -/
def readSequence : Nat → List Node → Option Node → Reader → Except Interrupt (Node × Reader)
  | 0, _, _, r => r.refuse .unbalanced
  | n + 1, done, last, r => do
    match r.rest with
    | [] => return (seqOf (last.toList ++ done), r)
    | c :: _ =>
      let next := r.advance 1
      if c = '|' || c = ')' then return (seqOf (last.toList ++ done), r)
      else if c = '(' then
        let (element, next) ← readGroup n next
        match element with
        | none => readSequence n done last next
        | some node => readSequence n (last.toList ++ done) (some node) next
      else if c = '\\' then
        let (escape, next) ← readEscape false next
        readSequence n (last.toList ++ done) (some (ofEscape escape next)) next
      else if c = '[' then
        let (node, next) ← readClass next
        readSequence n (last.toList ++ done) (some node) next
      else
        let quantifier ← readQuantifier? c next
        match quantifier with
        | some (bounds, next) =>
          let (greed, next) := if last.isSome then readGreed next else (.greedy, next)
          let node ← repeated r.pos done last bounds greed
          readSequence n (node :: done) none next
        | none =>
          let node := (ofSpecial? c r).getD (literal c r)
          readSequence n (last.toList ++ done) (some node) next

/-- A group, after its opening parenthesis. -/
def readGroup : Nat → Reader → Except Interrupt (Option Node × Reader)
  | 0, r => r.refuse .unbalanced
  | n + 1, r => do
    let flags := r.flags
    let (opening, r) ← readOpening r
    match opening with
    | .element node => return (node, r)
    | .capture group =>
      let (body, r) ← readBody n flags r
      return (some (.capture group body), r.closeGroup)
    | .plain =>
      let (body, r) ← readBody n flags r
      return (some body, r)
    | .look behind positive =>
      let (body, r) ← readBody n flags r
      return (some (.look behind positive body), r)
    | .atomic =>
      let (body, r) ← readBody n flags r
      return (some (.atomic body), r)

/-- The inside of a group and its closing parenthesis; then the flags from before hold again. -/
def readBody : Nat → Flags → Reader → Except Interrupt (Node × Reader)
  | 0, _, r => r.refuse .unbalanced
  | n + 1, flags, r => do
    let (body, r) ← readAlternatives n r
    let r ← r.expect ')'
    return (body, { r with flags })

end

/-- Checks a back reference once all groups are known. -/
def checkRef (r : Reader) : GroupRef × Nat → Except SyntaxError Unit
  | (.number n, place) =>
    if 1 ≤ n && n ≤ r.groupCount then .ok () else .error ⟨.invalidGroup, place⟩
  | (.name name, place) =>
    if (r.names.lookup name).isSome then .ok () else .error ⟨.unknownGroup, place⟩

/-- A regular expression with the numbers of its named groups. -/
structure Program where
  /-- What to match. -/
  node : Node
  /-- The numbers of the named groups. -/
  names : List (Text × Nat)
deriving DecidableEq, Repr

/-- Reads a pattern under given flags. -/
def parseWith (flags : Flags) (pattern : Text) : Except Interrupt Program := do
  let (node, r) ← readAlternatives (4 * pattern.length + 4) (Reader.start pattern flags)
  if r.rest.isEmpty then
    match r.refs.reverse.mapM (checkRef r) with
    | .ok _ => return ⟨node, r.names⟩
    | .error e => .error (.refused e)
  else r.refuse .unbalanced

/-- Reads a pattern, again from the start whenever it asks for another flag; `n` bounds how
often. -/
def parseAgain (pattern : Text) : Nat → Flags → Except SyntaxError Program
  | n, flags =>
    match parseWith flags pattern with
    | .ok program => .ok program
    | .error (.refused e) => .error e
    | .error (.flagsFound more) =>
      match n with
      | 0 => .error ⟨.unknownExtension, 0⟩
      | n + 1 => parseAgain pattern n more

/-- Reads a pattern. There are three flags, so it is read at most four times. -/
def parse (flags : Flags) (pattern : Text) : Except SyntaxError Program :=
  parseAgain pattern 3 flags

end SecretScan.Regex
