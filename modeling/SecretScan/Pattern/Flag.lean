import SecretScan.Text.Basic

/-!
# Flags

A pattern's flags are letters. `g` (find every occurrence), `i` (ignore case), `m` (lines) and `s`
(dot matches newlines) have a meaning for the matcher, any other letter is carried along without
one.
-/

namespace SecretScan.Pattern

/-- A set of flag letters, in code point order and without repetition. -/
abbrev FlagSet := List Char

namespace FlagSet

/-- Adds a letter. -/
def insert (letter : Char) : FlagSet → FlagSet
  | [] => [letter]
  | c :: cs =>
    if letter = c then c :: cs
    else if letter < c then letter :: c :: cs
    else c :: insert letter cs

/-- Adds letters. -/
def insertAll (letters : List Char) (flags : FlagSet) : FlagSet :=
  letters.foldl (fun flags letter => insert letter flags) flags

/-- The place of a letter in the written form; letters without a meaning come first. -/
def rank (letter : Char) : Nat :=
  match ['g', 'i', 'm', 's'].idxOf? letter with
  | some place => place + 1
  | none => 0

/-- The written form: the letters in the order `g`, `i`, `m`, `s`, and others before them. -/
def render (flags : FlagSet) : String :=
  String.ofList (flags.mergeSort fun a b => rank a ≤ rank b)

/-- The flags as the bit field that matchers take: `i` is 2, `m` is 8 and `s` is 16. -/
def bits (flags : FlagSet) : Nat :=
  (if 'i' ∈ flags then 2 else 0) + (if 'm' ∈ flags then 8 else 0) + (if 's' ∈ flags then 16 else 0)

end FlagSet

end SecretScan.Pattern
