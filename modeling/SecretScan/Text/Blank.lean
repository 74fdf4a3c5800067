import SecretScan.Text.Basic

/-!
# Blank characters

The characters that count as space when text is trimmed and when a pattern's comments are
recognised: the white-space characters of Unicode and the four information separators
U+001C to U+001F.
-/

namespace SecretScan

namespace Text

/-- The code points of blank characters, as inclusive ranges. -/
def blankRanges : List (Nat × Nat) :=
  [(0x09, 0x0D), (0x1C, 0x20), (0x85, 0x85), (0xA0, 0xA0), (0x1680, 0x1680), (0x2000, 0x200A),
   (0x2028, 0x2029), (0x202F, 0x202F), (0x205F, 0x205F), (0x3000, 0x3000)]

/-- Whether `c` is a blank character. -/
def isBlank (c : Char) : Bool :=
  inRanges blankRanges c.toNat

/-- Drops the blanks at both ends. -/
def trim (t : Text) : Text :=
  t.trimWhile isBlank

/-- The blanks of the ASCII range that the core library knows are blank here too. -/
theorem isBlank_of_isWhitespace {c : Char} (h : c.isWhitespace = true) : isBlank c = true := by
  simp only [Char.isWhitespace, Bool.or_eq_true, decide_eq_true_eq] at h
  rcases h with ((h | h) | h) | h <;> subst h <;> decide

end Text

end SecretScan
