import SecretScan.Text.Utf8

/-!
# Base 64

Bytes as text: each character carries six bits, and four characters make three bytes. Characters of
no meaning are passed over. Text that stops inside a group of four has to be filled up with `=`.
-/

namespace SecretScan.Yaml.Base64

/-- The six bits that a character carries. -/
def value? (c : Char) : Option Nat :=
  if 'A' ≤ c && c ≤ 'Z' then some (c.toNat - 65)
  else if 'a' ≤ c && c ≤ 'z' then some (c.toNat - 71)
  else if c.isDigit then some (c.toNat + 4)
  else if c = '+' then some 62
  else if c = '/' then some 63
  else none

/-- The bytes of the rest of a text. The group at hand has `taken` characters, the last of which
leaves the bits `left`, and `fills` signs have filled it up. Nothing counts after a full group. -/
def bytesFrom? (taken left fills : Nat) : Text → Option Bytes
  | [] => if taken = 0 then some [] else none
  | c :: t =>
    if c = '=' then
      if 2 ≤ taken then
        if 4 ≤ taken + fills + 1 then some [] else bytesFrom? taken left (fills + 1) t
      else bytesFrom? taken left fills t
    else
      match value? c with
      | none => bytesFrom? taken left fills t
      | some n =>
        match taken with
        | 0 => bytesFrom? 1 n 0 t
        | 1 => (bytesFrom? 2 (n % 16) 0 t).map ((4 * left + n / 16).toUInt8 :: ·)
        | 2 => (bytesFrom? 3 (n % 4) 0 t).map ((16 * left + n / 4).toUInt8 :: ·)
        | _ => (bytesFrom? 0 0 0 t).map ((64 * left + n).toUInt8 :: ·)

/-- The bytes that a text spells. -/
def decode? (t : Text) : Option Bytes :=
  if t.all (·.toNat < 0x80) then bytesFrom? 0 0 0 t else none

end SecretScan.Yaml.Base64
