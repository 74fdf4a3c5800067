import SecretScan.Text.Unprintable

/-!
# Quoted text

Text inside a list, a mapping or a message is put in quotes. The quotes are single, unless the text
holds a single quote and no double one. The backslash and the quote are escaped, and so is every
character that would not be shown.
-/

namespace SecretScan

namespace Text

/-- The quote that suits a text. -/
def quoteFor (t : Text) : Char :=
  if '\'' ∈ t && !('"' ∈ t) then '"' else '\''

/-- The lower-case hexadecimal digits of `n`, at least `width`. -/
def hexDigits (width n : Nat) : Text :=
  let ds := Nat.toDigits 16 n
  List.replicate (width - ds.length) '0' ++ ds

/-- A character between quotes `q`. -/
def escapeIn (q c : Char) : Text :=
  if c = q || c = '\\' then ['\\', c]
  else if c = '\n' then ['\\', 'n']
  else if c = '\r' then ['\\', 'r']
  else if c = '\t' then ['\\', 't']
  else if isPrintable c then [c]
  else if c.toNat < 0x100 then '\\' :: 'x' :: hexDigits 2 c.toNat
  else if c.toNat < 0x10000 then '\\' :: 'u' :: hexDigits 4 c.toNat
  else '\\' :: 'U' :: hexDigits 8 c.toNat

/-- The text in quotes. -/
def quoted (t : Text) : Text :=
  let q := quoteFor t
  q :: t.flatMap (escapeIn q) ++ [q]

end Text

end SecretScan
