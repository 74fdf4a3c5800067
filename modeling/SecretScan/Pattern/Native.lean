import SecretScan.Pattern.Comment
import SecretScan.Pattern.Flag
import SecretScan.Pattern.Group

/-!
# Native form of a pattern

Rules are written in a dialect with inline flags, scoped flags, free-spacing mode and comments. The
matcher takes a plainer form: a pattern and a set of flags for all of it. `convert` goes from the
one to the other in passes:

1. comments are removed;
2. `(?P<name>` becomes `(?<name>`;
3. a leading flag marker `(?imsux)` is removed and its flags are collected;
4. a group with scoped flags `(?i:…)` becomes a plain group, and its `i` and `s` are collected;
5. flag markers anywhere else are removed and their flags are collected;
6. in free-spacing mode, blanks outside classes are removed.

The matcher has no scoped flags, so a flag that a group switches on applies to the whole pattern,
and one that a group switches off is dropped.
-/

namespace SecretScan.Pattern

/-- A letter that may stand in a flag marker. -/
def isMarkerLetter (c : Char) : Bool :=
  c = 'i' || c = 'm' || c = 's' || c = 'u' || c = 'x'

/-- The letters and the length of the flag marker `(?imsux)` at the front of `s`. -/
def flagMarker? : Text → Option (List Char × Nat)
  | '(' :: '?' :: s =>
    let letters := s.takeWhile isMarkerLetter
    match letters, s.drop letters.length with
    | _ :: _, ')' :: _ => some (letters, letters.length + 3)
    | _, _ => none
  | _ => none

/-- An opener of a group with scoped flags. -/
structure ScopedOpener where
  /-- The flags that the group switches on. -/
  on : List Char
  /-- The flags that the group switches off. -/
  off : List Char
  /-- The length of the opener, its colon included. -/
  length : Nat

/-- The opener `(?on-off:` at the front of `s`. Both lists of flags may be missing, but a `-` has at
least one flag after it. -/
def scopedOpener? : Text → Option ScopedOpener
  | '(' :: '?' :: s =>
    let on := s.takeWhile isMarkerLetter
    match s.drop on.length with
    | ':' :: _ => some ⟨on, [], on.length + 3⟩
    | '-' :: s =>
      let off := s.takeWhile isMarkerLetter
      match off, s.drop off.length with
      | _ :: _, ':' :: _ => some ⟨on, off, on.length + off.length + 4⟩
      | _, _ => none
    | _ => none
  | _ => none

/-- Whether `c` may begin a group name. -/
def isNameStart (c : Char) : Bool :=
  c.isAlpha || c = '_'

/-- Whether `c` may go on a group name. -/
def isNameChar (c : Char) : Bool :=
  c.isAlphanum || c = '_'

/-- The name in the opener `(?P<name>` at the front of `s`. -/
def namedOpener? : Text → Option Text
  | '(' :: '?' :: 'P' :: '<' :: s =>
    let name := s.takeWhile isNameChar
    match name, s.drop name.length with
    | c :: _, '>' :: _ => if isNameStart c then some name else none
    | _, _ => none
  | _ => none

/-- Shortens a named opener. -/
def namedGroupEdit (w : Walk) : Edit Unit :=
  if w.atSyntax '(' then
    match namedOpener? w.rest with
    | some name => .replace (['(', '?', '<'] ++ name ++ ['>']) (w.pos + name.length + 5) ()
    | none => .keep
  else .keep

/-- Shortens the openers `(?P<name>` to `(?<name>`. -/
def shortenNamedGroups (pattern : Text) : Text :=
  (edit namedGroupEdit pattern).1

/-- Whether the pattern begins with a flag marker that switches free-spacing mode on. -/
def hasExtendedFlag (pattern : Text) : Bool :=
  (flagMarker? pattern).any fun (letters, _) => 'x' ∈ letters

/-- Adds the flags of a marker. Only `i`, `m` and `s` have a counterpart: `x` is handled by removing
blanks, and `u` is always on. -/
def mergeFlags (letters : List Char) (flags : FlagSet) : FlagSet :=
  flags.insertAll (letters.filter fun c => c = 'i' || c = 'm' || c = 's')

/-- What is left of a pattern when flag syntax is removed. -/
structure Extracted where
  /-- The pattern without the flag syntax. -/
  pattern : Text
  /-- The flags so far. -/
  flags : FlagSet
  /-- Whether free-spacing mode was switched on. -/
  extended : Bool
deriving DecidableEq, Repr

/-- Removes a leading flag marker. -/
def extractHeader (pattern : Text) : Extracted :=
  match flagMarker? pattern with
  | some (letters, n) => ⟨pattern.drop n, mergeFlags letters [], 'x' ∈ letters⟩
  | none => ⟨pattern, [], false⟩

/-- Changes the opener of a group with scoped flags, noting the flags it switches on. Only a group
that is closed is changed. -/
def scopedFlagsEdit (w : Walk) : Edit (List Char) :=
  if w.atSyntax '(' then
    match scopedOpener? w.rest with
    | some opener =>
      if (opener.on ≠ [] || opener.off ≠ []) && (groupEnd? w.text w.pos).isSome then
        .replace ['('] (w.pos + opener.length) opener.on
      else .keep
    | none => .keep
  else .keep

/-- Turns groups with scoped flags into plain groups and adds the `i` and `s` among their flags. -/
def promoteScopedFlags (pattern : Text) (flags : FlagSet) : Text × FlagSet :=
  let (pattern, notes) := edit scopedFlagsEdit pattern
  (pattern, flags.insertAll (notes.flatten.filter fun c => c = 'i' || c = 's'))

/-- Removes a flag marker, noting its letters. -/
def flagMarkerEdit (w : Walk) : Edit (List Char) :=
  if w.atSyntax '(' then
    match flagMarker? w.rest with
    | some (letters, n) => .replace [] (w.pos + n) letters
    | none => .keep
  else .keep

/-- Removes flag markers everywhere and adds their flags. -/
def extractInlineFlags (pattern : Text) (flags : FlagSet) : Extracted :=
  let (pattern, notes) := edit flagMarkerEdit pattern
  ⟨pattern, mergeFlags notes.flatten flags, 'x' ∈ notes.flatten⟩

/-- The blanks that free-spacing mode ignores. -/
def isFreeSpace (c : Char) : Bool :=
  c = ' ' || c = '\t' || c = '\n' || c = '\r'

/-- Removes the blanks of a free-spacing pattern that are neither escaped nor in a class. -/
def stripFreeSpace (pattern : Text) : Text :=
  ((tokens pattern).filter fun t => !(t.kind = .char && isFreeSpace t.char)).map Token.char

/-- A pattern in the form that the matcher takes. -/
structure Native where
  /-- The pattern. -/
  pattern : Text
  /-- Its flags; `g` is always among them. -/
  flags : FlagSet
  /-- Whether the pattern was written in free-spacing mode. -/
  extended : Bool
deriving DecidableEq, Repr

/-- The native form of a pattern without comments. -/
def convertUncommented (pattern : Text) : Native :=
  let header := extractHeader (shortenNamedGroups pattern)
  let (body, flags) := promoteScopedFlags header.pattern header.flags
  let inline := extractInlineFlags body flags
  let extended := header.extended || inline.extended
  let body := if extended then stripFreeSpace inline.pattern else inline.pattern
  ⟨body, inline.flags.insert 'g', extended⟩

/-- The native form of a pattern as rules write it. -/
def convert (pattern : Text) : Native :=
  convertUncommented (stripComments pattern (hasExtendedFlag pattern))

end SecretScan.Pattern
