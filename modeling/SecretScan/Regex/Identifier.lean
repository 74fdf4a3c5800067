import SecretScan.Regex.Property
import SecretScan.Text.Alnum
import SecretScan.Text.Unprintable

/-!
# Identifiers

The name of a group is an identifier: a letter or `_`, and then letters, marks, digits and
connectors. That is nearly an alphabetic character and then word characters, as far as Unicode 14
knows them; the tables hold the exceptions. Among them are characters that have another form with a
blank in it, and symbols that show a letter.
-/

namespace SecretScan.Regex

/-- Letters with which no identifier begins. -/
def neverFirst : List (Nat × Nat) :=
  [(0x37A, 0x37A), (0xE33, 0xE33), (0xEB3, 0xEB3), (0x2E2F, 0x2E2F), (0xFC5E, 0xFC63),
   (0xFDFA, 0xFDFB), (0xFE70, 0xFE70), (0xFE72, 0xFE72), (0xFE74, 0xFE74), (0xFE76, 0xFE76),
   (0xFE78, 0xFE78), (0xFE7A, 0xFE7A), (0xFE7C, 0xFE7C), (0xFE7E, 0xFE7E), (0xFF9E, 0xFF9F)]

/-- Other characters with which an identifier can begin. -/
def alsoFirst : List (Nat × Nat) :=
  [(0x1885, 0x1886), (0x2118, 0x2118), (0x212E, 0x212E)]

/-- Word characters that are in no identifier. -/
def neverInside : List (Nat × Nat) :=
  [(0x37A, 0x37A), (0x488, 0x489), (0x1ABE, 0x1ABE), (0x20DD, 0x20E0), (0x20E2, 0x20E4),
   (0x24B6, 0x24E9), (0x2E2F, 0x2E2F), (0xA670, 0xA672), (0xFC5E, 0xFC63), (0xFDFA, 0xFDFB),
   (0xFE70, 0xFE70), (0xFE72, 0xFE72), (0xFE74, 0xFE74), (0xFE76, 0xFE76), (0xFE78, 0xFE78),
   (0xFE7A, 0xFE7A), (0xFE7C, 0xFE7C), (0xFE7E, 0xFE7E), (0x1F130, 0x1F149), (0x1F150, 0x1F169),
   (0x1F170, 0x1F189)]

/-- Other characters that can be in an identifier. -/
def alsoInside : List (Nat × Nat) :=
  [(0xB7, 0xB7), (0x387, 0x387), (0x1369, 0x1371), (0x19DA, 0x19DA), (0x2118, 0x2118),
   (0x212E, 0x212E)]

/-- Whether an identifier can begin with `c`. -/
def beginsIdentifier (c : Char) : Bool :=
  let n := c.toNat
  c = '_' || Text.inRanges alsoFirst n
    || (Property.isAlphabetic n && Text.isAlnum c && !Text.inRanges neverFirst n)

/-- Whether an identifier can go on with `c`. -/
def continuesIdentifier (c : Char) : Bool :=
  let n := c.toNat
  Text.inRanges alsoInside n
    || (Property.isWord n && Text.isPrintable c && !Text.inRanges neverInside n)

/-- Whether `name` can be the name of a group. -/
def isIdentifier : Text → Bool
  | [] => false
  | c :: cs => beginsIdentifier c && cs.all continuesIdentifier

end SecretScan.Regex
