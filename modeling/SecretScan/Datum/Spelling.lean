import SecretScan.Datum.Basic
import SecretScan.Decimal.Numeral
import SecretScan.Text.Quoted

/-!
# Spelling of data values

Where a text is expected, any value may stand, and its spelling is taken: a text is spelled as it
is, a number in its shortest notation, a truth value as `True` or `False` and the null value as
`None`. Inside lists and mappings texts are put in quotes and dates are spelled out. Where a value
stands inside itself, dots stand for it.

Whole numbers with too many digits have no spelling: `Datum.isSpellable`.
-/

namespace SecretScan.Datum

/-- A number with leading zeros. -/
def padded (width n : Nat) : Text :=
  let ds := Nat.toDigits 10 n
  List.replicate (width - ds.length) '0' ++ ds

/-- Texts with a comma and a space between them. -/
def commaList : List Text → Text
  | [] => []
  | [t] => t
  | t :: ts => t ++ ',' :: ' ' :: commaList ts

/-- A name with arguments in parentheses. -/
def call (name : String) (arguments : List Text) : Text :=
  name.toList ++ '(' :: commaList arguments ++ [')']

/-- A number as a text. -/
def ofNat (n : Nat) : Text :=
  Nat.toDigits 10 n

/-- The escaped form of a byte between quotes `q`. -/
def escapeByte (q : Char) (b : UInt8) : Text :=
  if b < 0x80 then Text.escapeIn q (Char.ofNat b.toNat)
  else '\\' :: 'x' :: Text.hexDigits 2 b.toNat

/-- Bytes in quotes. -/
def spellBytes (bs : Bytes) : Text :=
  let q := Text.quoteFor (bs.map fun b => if b < 0x80 then Char.ofNat b.toNat else ' ')
  'b' :: q :: bs.flatMap (escapeByte q) ++ [q]

/-- A day in numbers. -/
def spellDate (d : Date) : Text :=
  padded 4 d.year ++ '-' :: padded 2 d.month ++ '-' :: padded 2 d.day

/-- A time of day in numbers. -/
def spellClock (c : Clock) : Text :=
  padded 2 c.hour ++ ':' :: padded 2 c.minute ++ ':' :: padded 2 c.second
    ++ if c.micros = 0 then [] else '.' :: padded 6 c.micros

/-- A distance from universal time. -/
def spellOffset (offset : Int) : Text :=
  let n := offset.natAbs
  (if offset < 0 then '-' else '+') :: padded 2 (n / 3600) ++ ':' :: padded 2 (n / 60 % 60)
    ++ if n % 60 = 0 then [] else ':' :: padded 2 (n % 60)

/-- A number of seconds, spelled out as whole days and the seconds that remain. -/
def spellDuration (duration : Int) : Text :=
  let days := Int.fdiv duration 86400
  let seconds := (Int.fmod duration 86400).toNat
  call "datetime.timedelta"
    ((if days = 0 then [] else ["days=".toList ++ (toString days).toList])
      ++ if seconds = 0 then [] else ["seconds=".toList ++ ofNat seconds])

/-- A distance from universal time, spelled out. -/
def spellZone (offset : Int) : Text :=
  if offset = 0 then "datetime.timezone.utc".toList
  else call "datetime.timezone" [spellDuration offset]

/-- The numbers of a time of day, without zeros at the end; hour and minute are always told. -/
def clockArguments (c : Clock) : List Text :=
  let tail := if c.micros = 0 then (if c.second = 0 then [] else [c.second]) else [c.second, c.micros]
  ([c.hour, c.minute] ++ tail).map ofNat

/-- The numbers of a day. -/
def dateArguments (d : Date) : List Text :=
  [d.year, d.month, d.day].map ofNat

/-- Dots in the brackets of a mapping or of a list. -/
def dots (inBraces : Bool) : Text :=
  (if inBraces then "\x7b...\x7d" else "[...]").toList

mutual

/-- The spelling of a value inside another one. `around` holds the knots around it, and of each
whether it is a mapping. -/
def spellInside (around : List (Nat × Bool)) : Datum → Text
  | null => "None".toList
  | bool b => (if b then "True" else "False").toList
  | int n => (toString n).toList
  | float x => (Decimal.shortest x).toList
  | text t => t.quoted
  | bytes bs => spellBytes bs
  | date d => call "datetime.date" (dateArguments d)
  | moment d c offset =>
    call "datetime.datetime" (dateArguments d ++ clockArguments c
      ++ match offset with
        | some offset => ["tzinfo=".toList ++ spellZone offset]
        | none => [])
  | clock c => call "datetime.time" (clockArguments c)
  | list items => '[' :: commaList (spellItems around items) ++ [']']
  | pair first second =>
    '(' :: commaList [first.spellInside around, second.spellInside around] ++ [')']
  | map entries => '\x7b' :: commaList (spellEntries around entries) ++ ['\x7d']
  | set items =>
    if items.isEmpty then "set()".toList
    else '\x7b' :: commaList (spellItems around items) ++ ['\x7d']
  | knot number body =>
    match around.lookup number with
    | some inBraces => dots inBraces
    | none => body.spellInside ((number, body.isMap) :: around)
  | again number => dots ((around.lookup number).getD false)

/-- The spellings of items. -/
def spellItems (around : List (Nat × Bool)) : List Datum → List Text
  | [] => []
  | item :: items => item.spellInside around :: spellItems around items

/-- The spellings of the entries of a mapping. -/
def spellEntries (around : List (Nat × Bool)) : List (Datum × Datum) → List Text
  | [] => []
  | (key, value) :: entries =>
    (key.spellInside around ++ ':' :: ' ' :: value.spellInside around)
      :: spellEntries around entries

end

/-- The spelling of a value. -/
def spell : Datum → Text
  | text t => t
  | date d => spellDate d
  | clock c => spellClock c
  | moment d c offset =>
    spellDate d ++ ' ' :: spellClock c ++ match offset with
      | some offset => spellOffset offset
      | none => []
  | d => d.spellInside []

mutual

/-- Whether a value has a spelling: no whole number in it has too many digits. -/
def isSpellable : Datum → Bool
  | int n => (toString n.natAbs).length ≤ Decimal.maxIntDigits
  | list items => areSpellable items
  | pair first second => first.isSpellable && second.isSpellable
  | map entries => entriesAreSpellable entries
  | set items => areSpellable items
  | knot _ body => body.isSpellable
  | _ => true

/-- Whether all items have a spelling. -/
def areSpellable : List Datum → Bool
  | [] => true
  | item :: items => item.isSpellable && areSpellable items

/-- Whether all entries of a mapping have a spelling. -/
def entriesAreSpellable : List (Datum × Datum) → Bool
  | [] => true
  | (key, value) :: entries =>
    key.isSpellable && value.isSpellable && entriesAreSpellable entries

end

/-- The spelling of a value, if it has one. -/
def spell? (d : Datum) : Option Text :=
  if d.isSpellable then some d.spell else none

end SecretScan.Datum
