import SecretScan.Regex.Property
import SecretScan.Text.CaseFold

/-!
# Regular expressions

The form that a pattern takes once it has been read. Flags are resolved: a class knows whether it
ignores case, and an anchor whether it stands for lines or for the whole text.
-/

namespace SecretScan.Regex

/-- One member of a class of characters. -/
inductive ClassItem where
  /-- One code point. -/
  | char (n : Nat)
  /-- The code points from `low` to `high`. -/
  | range (low high : Nat)
  /-- The code points with a property, or those without it. -/
  | property (p : Property) (positive : Bool)
deriving DecidableEq, Repr

namespace ClassItem

/-- Whether one of the code points `ns` is covered. The list holds a character of the text, or all
the characters that match it without regard to case. -/
def matchesAny (ns : List Nat) : ClassItem → Bool
  | char n => ns.contains n
  | range low high => ns.any fun n => low ≤ n && n ≤ high
  | property p positive => (ns.any fun n => p.holds n) == positive

end ClassItem

/-- A class of characters; a single literal is a class with one member. -/
structure CharClass where
  /-- The members. -/
  items : List ClassItem
  /-- Whether the class holds its members or everything else. -/
  positive : Bool
  /-- Whether case is ignored. -/
  ignoreCase : Bool
deriving DecidableEq, Repr

namespace CharClass

/-- The class with the given members. With a property and its complement among them it holds every
character, and then it has no outside: negation does not empty it. -/
def ofItems (items : List ClassItem) (positive ignoreCase : Bool) : CharClass :=
  let complementary : ClassItem → Bool
    | .property p positive => items.contains (.property p !positive)
    | _ => false
  if items.any complementary then ⟨[], false, ignoreCase⟩ else ⟨items, positive, ignoreCase⟩

/-- Whether one of the members covers `c`. Where case is ignored, a character stands for all that
match it, and a property that stands alone is asked of `c` itself. -/
def covers (k : CharClass) (c : Char) : Bool :=
  let n := c.toNat
  match k.ignoreCase, k.items with
  | true, [.property p positive] => p.holdsIgnoringCase n == positive
  | true, items => items.any fun item => item.matchesAny (Text.caseVariants n)
  | false, items => items.any fun item => item.matchesAny [n]

/-- Whether the class holds `c`. -/
def contains (k : CharClass) (c : Char) : Bool :=
  k.covers c == k.positive

end CharClass

/-- A condition on a place in the text. -/
inductive Anchor where
  /-- The beginning of the text. -/
  | textStart
  /-- The beginning of a line. -/
  | lineStart
  /-- The end of the text. -/
  | textEnd
  /-- The end of the text, or before a newline that ends it. -/
  | lastLineEnd
  /-- The end of a line. -/
  | lineEnd
  /-- A place where exactly one of the neighbours is a word character. -/
  | wordBoundary
  /-- Any other place. -/
  | noWordBoundary
  /-- A place where a word begins. -/
  | wordStart
  /-- A place where a word ends. -/
  | wordEnd
deriving DecidableEq, Repr

/-- How a repetition chooses between going on and stopping. -/
inductive Greed where
  /-- Goes on as long as possible and gives back. -/
  | greedy
  /-- Stops as soon as possible and goes on if it must. -/
  | lazy
  /-- Goes on as long as possible and gives nothing back. -/
  | possessive
deriving DecidableEq, Repr

/-- The group that a back reference means. -/
inductive GroupRef where
  /-- The group with a number. -/
  | number (n : Nat)
  /-- The group with a name. -/
  | name (name : Text)
deriving DecidableEq, Repr

/-- A regular expression. -/
inductive Node where
  /-- Matches the empty text. -/
  | empty
  /-- One character. -/
  | chars (k : CharClass)
  /-- One after the other. -/
  | seq (a b : Node)
  /-- The first one that lets the whole match succeed. -/
  | alt (a b : Node)
  /-- Remembers what `body` matches under a number. -/
  | capture (group : Nat) (body : Node)
  /-- The text that a group matched last. -/
  | backref (group : GroupRef) (ignoreCase : Bool)
  /-- A repetition. -/
  | rep (body : Node) (least : Nat) (most : Option Nat) (greed : Greed)
  /-- A condition on the place. -/
  | anchor (a : Anchor)
  /-- A condition on the text before or after the place. -/
  | look (behind positive : Bool) (body : Node)
  /-- Matches `body` and keeps the first way it finds. -/
  | atomic (body : Node)
deriving DecidableEq, Repr, Inhabited

namespace Node

/-- The back references of an expression. -/
def refs : Node → List GroupRef
  | .seq a b | .alt a b => a.refs ++ b.refs
  | .capture _ body | .rep body _ _ _ | .look _ _ body | .atomic body => body.refs
  | .backref ref _ => [ref]
  | _ => []

/-- Whether the expression refers back. -/
def refers : Node → Bool
  | .seq a b | .alt a b => a.refers || b.refers
  | .capture _ body | .rep body _ _ _ | .look _ _ body | .atomic body => body.refers
  | .backref _ _ => true
  | _ => false

end Node

end SecretScan.Regex
