import SecretScan.Text.Basic

/-!
# Tokens of a pattern

A pattern is walked one character at a time, and each character gets a *kind*: whether it is
syntax, part of an escape pair, or part of a character class. Every editing pass and the
balance check decide by these kinds alone, so they agree on what is escaped and what sits inside
a class.
-/

namespace SecretScan.Pattern

/-- The part a character plays in a pattern. -/
inductive TokenKind where
  /-- An ordinary character outside any class; only these are syntax. -/
  | char
  /-- A backslash that escapes the next character. -/
  | escape
  /-- The character after an escaping backslash. -/
  | escaped
  /-- The `[` that opens a class, or a named item inside one. -/
  | classOpen
  /-- The `]` that closes a class, or a named item inside one. -/
  | classClose
  /-- Any other character inside a class. -/
  | member
deriving DecidableEq, Repr

/-- One character of a pattern together with its kind. -/
structure Token where
  /-- The offset of the character in the pattern. -/
  index : Nat
  /-- The character itself. -/
  char : Char
  /-- The part it plays. -/
  kind : TokenKind
  /-- Whether the walk was inside a class before this character. -/
  inClass : Bool
deriving DecidableEq, Repr

/-- Whether the token is the syntax character `c`. -/
def Token.isSyntax (t : Token) (c : Char) : Bool :=
  t.kind = .char && t.char = c

/-- The length of the named item `[:name:]` or `[:^name:]` at the front of `s`; a name is one or
more ASCII letters. -/
def namedItemLength? : Text → Option Nat
  | '[' :: ':' :: s =>
    let (negation, s) := match s with
      | '^' :: r => (1, r)
      | _ => (0, s)
    let name := s.takeWhile Char.isAlpha
    match name, s.drop name.length with
    | _ :: _, ':' :: ']' :: _ => some (negation + name.length + 4)
    | _, _ => none
  | _ => none

end SecretScan.Pattern
