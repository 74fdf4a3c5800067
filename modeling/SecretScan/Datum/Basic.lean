import SecretScan.Text.Utf8

/-!
# Data values

Rule files and settings hold data whose shape nobody has checked yet. A data value is whatever such
a file can say: scalars, dates, lists and mappings. The entries of a mapping keep their order.

A list or mapping can contain itself. Such a value is a `knot` with a number, and inside of it
`again` with that number stands for the whole; `Datum.untied` puts the whole in for it.
-/

namespace SecretScan

/-- A day of the calendar. -/
structure Date where
  /-- The year. -/
  year : Nat
  /-- The month, from 1. -/
  month : Nat
  /-- The day of the month, from 1. -/
  day : Nat
deriving DecidableEq, Repr

/-- A time of day. -/
structure Clock where
  /-- The hour. -/
  hour : Nat
  /-- The minute. -/
  minute : Nat
  /-- The second. -/
  second : Nat
  /-- The part of a second, in millionths. -/
  micros : Nat
deriving DecidableEq, Repr

/-- A data value. -/
inductive Datum where
  /-- No value. -/
  | null
  /-- A truth value. -/
  | bool (b : Bool)
  /-- A whole number. -/
  | int (n : Int)
  /-- A floating-point number. -/
  | float (x : Float)
  /-- A text. -/
  | text (t : Text)
  /-- Raw bytes. -/
  | bytes (bs : Bytes)
  /-- A day. -/
  | date (d : Date)
  /-- A day and a time, with the distance from universal time in seconds if it is known. -/
  | moment (d : Date) (c : Clock) (offset : Option Int)
  /-- A time of day. -/
  | clock (c : Clock)
  /-- A list. -/
  | list (items : List Datum)
  /-- A pair. -/
  | pair (first second : Datum)
  /-- A mapping. -/
  | map (entries : List (Datum × Datum))
  /-- A set. -/
  | set (items : List Datum)
  /-- A value that contains itself, under a number of its own. -/
  | knot (number : Nat) (body : Datum)
  /-- The knot with a number, inside of it. -/
  | again (number : Nat)
deriving Inhabited

namespace Datum

mutual

/-- The value with `whole` in place of `again number`. -/
def fill (number : Nat) (whole : Datum) : Datum → Datum
  | list items => list (fillItems number whole items)
  | pair first second => pair (fill number whole first) (fill number whole second)
  | map entries => map (fillEntries number whole entries)
  | set items => set (fillItems number whole items)
  | knot other body => knot other (fill number whole body)
  | again other => if other = number then whole else again other
  | d => d

/-- The items with `whole` in place of `again number`. -/
def fillItems (number : Nat) (whole : Datum) : List Datum → List Datum
  | [] => []
  | item :: items => fill number whole item :: fillItems number whole items

/-- The entries with `whole` in place of `again number`. -/
def fillEntries (number : Nat) (whole : Datum) : List (Datum × Datum) → List (Datum × Datum)
  | [] => []
  | (key, value) :: entries =>
    (fill number whole key, fill number whole value) :: fillEntries number whole entries

end

/-- The value as one that is no knot. -/
def untied : Datum → Datum
  | knot number body => fill number (knot number body) body
  | d => d

/-- The name of the type of a value. -/
def typeName : Datum → String
  | null => "NoneType"
  | bool _ => "bool"
  | int _ => "int"
  | float _ => "float"
  | text _ => "str"
  | bytes _ => "bytes"
  | date _ => "date"
  | moment .. => "datetime"
  | clock _ => "time"
  | list _ => "list"
  | pair .. => "tuple"
  | map _ => "dict"
  | set _ => "set"
  | knot _ body => body.typeName
  | again _ => "object"

/-- Whether a value counts as given: it is not absent, false, zero or empty. -/
def isGiven : Datum → Bool
  | null => false
  | bool b => b
  | int n => n ≠ 0
  | float x => !(x == 0.0)
  | text t => !t.isEmpty
  | bytes bs => !bs.isEmpty
  | list items => !items.isEmpty
  | map entries => !entries.isEmpty
  | set items => !items.isEmpty
  | knot _ body => body.isGiven
  | _ => true

/-- Whether the value is a mapping. -/
def isMap : Datum → Bool
  | map _ => true
  | knot _ body => body.isMap
  | _ => false

/-- Whether the value is the text `name`. -/
def isText (name : String) : Datum → Bool
  | text t => t = name.toList
  | _ => false

theorem isText_iff {name : String} {d : Datum} : d.isText name = true ↔ d = .text name.toList := by
  cases d <;> simp [isText]

/-- The value under the key `name` of a mapping. -/
def get? (name : String) (d : Datum) : Option Datum :=
  match d.untied with
  | map entries => (entries.find? fun (key, _) => key.isText name).map Prod.snd
  | _ => none

/-- The value under the key `name`; a missing one is the null value. -/
def get (name : String) (d : Datum) : Datum :=
  (d.get? name).getD null

/-- The parts that a value is made of. A mapping is made of its keys, a text of its characters. -/
def parts? (d : Datum) : Option (List Datum) :=
  match d.untied with
  | list items => some items
  | set items => some items
  | pair first second => some [first, second]
  | map entries => some (entries.map Prod.fst)
  | text t => some (t.map fun c => text [c])
  | bytes bs => some (bs.map fun b => int b.toNat)
  | _ => none

end Datum

end SecretScan
