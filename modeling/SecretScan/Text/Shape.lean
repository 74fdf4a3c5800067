import SecretScan.Text.Alnum
import SecretScan.Text.Blank

/-!
# Shapes

A shape describes texts by what they are made of: words, runs of certain characters, choices. A
shape applied to a text yields every rest that can be left over once the shape has taken its part
from the front, so a text begins with the shape exactly if there is a rest.

Words are compared without regard to case. The long `ſ` counts as an `s`, the Kelvin sign as a `k`,
and both the dotless `ı` and the dotted `İ` as an `i`.
-/

namespace SecretScan

/-- The rests that a shape can leave of a text. -/
abbrev Shape := Text → List Text

namespace Shape

/-- The small form of a letter, as far as words in ASCII letters are concerned. -/
def small (c : Char) : Char :=
  if c.toNat = 0x17F then 's'
  else if c.toNat = 0x212A then 'k'
  else if c.toNat = 0x130 || c.toNat = 0x131 then 'i'
  else c.toLower

/-- One character in `p`. -/
def one (p : Char → Bool) : Shape
  | [] => []
  | c :: t => if p c then [t] else []

/-- The characters of `w` in any case; `w` is written small. -/
def wordOf : List Char → Shape
  | [], t => [t]
  | _ :: _, [] => []
  | w :: ws, c :: t => if small c = w then wordOf ws t else []

/-- The word `w` in any case; `w` is written small. -/
def word (w : String) : Shape :=
  wordOf w.toList

/-- Exactly the text `w`. -/
def exactly (w : String) : Shape := fun t =>
  if w.toList.isPrefixOf t then [t.drop w.length] else []

/-- Any number of characters in `p`. -/
def many (p : Char → Bool) : Shape
  | [] => [[]]
  | c :: t => (c :: t) :: (if p c then many p t else [])

/-- One shape after the other. -/
def seq (shapes : List Shape) : Shape := fun t =>
  shapes.foldl (fun rests shape => rests.flatMap shape) [t]

/-- At least one character in `p`. -/
def some (p : Char → Bool) : Shape :=
  seq [one p, many p]

/-- One of several shapes. -/
def anyOf (shapes : List Shape) : Shape := fun t =>
  shapes.flatMap fun shape => shape t

/-- One of several words. -/
def anyWord (words : List String) : Shape :=
  anyOf (words.map word)

/-- Exactly `n` characters in `p`. -/
def exactCount (n : Nat) (p : Char → Bool) : Shape :=
  seq (List.replicate n (one p))

/-- The shape at most `n` times, one after the other. -/
def upTo (shape : Shape) : Nat → Shape
  | 0, t => [t]
  | n + 1, t => t :: (shape t).flatMap (upTo shape n)

/-- The shape any number of times; each time it has to take something. -/
def repeated (shape : Shape) : Shape := fun t =>
  upTo shape t.length t

/-- The end of the text, or a newline that ends it. -/
def lastLineEnd : Shape := fun t =>
  if t = [] || t = ['\n'] then [t] else []

/-- One of the characters in `cs`. -/
def oneOf (cs : String) : Shape :=
  one fun c => c ∈ cs.toList

/-- Whether the text begins with the shape. -/
def begins (shape : Shape) (t : Text) : Bool :=
  !(shape t).isEmpty

/-- Whether the shape occurs anywhere in the text. -/
def occurs (shape : Shape) : Text → Bool
  | [] => begins shape []
  | c :: t => begins shape (c :: t) || occurs shape t

end Shape

end SecretScan
