import SecretScan.Datum.Number
import SecretScan.Datum.Time

/-!
# Keys

Two keys of a mapping are the same if they are equal as values: a truth value is the number 0 or 1,
a floating-point number without a fraction is a whole number, and two times that say where they hold
are equal if they mean the same instant. Not-a-number equals nothing, and so it matters where a key
was written.
-/

namespace SecretScan

/-- The days before a month in its year. -/
def daysBefore (year : Nat) : (month : Nat) → Nat
  | 0 | 1 => 0
  | month + 2 => daysBefore year (month + 1) + Stamp.monthLength year (month + 1)

/-- The number of a day, counted from the first day of the calendar. -/
def Date.number (d : Date) : Nat :=
  let years := d.year - 1
  365 * years + years / 4 - years / 100 + years / 400 + daysBefore d.year d.month + d.day

/-- The seconds from the beginning of the calendar to a time that is `offset` ahead of universal
time. -/
def Date.instant (d : Date) (c : Clock) (offset : Int) : Int :=
  (86400 * d.number + 3600 * c.hour + 60 * c.minute + c.second : Nat) - offset

namespace Datum

/-- The value in the form in which keys are compared: truth values and floating-point numbers
without a fraction are whole numbers. -/
def keyForm : Datum → Datum
  | bool b => int (if b then 1 else 0)
  | float x =>
    match Decimal.truncate x with
    | .ok n => if Decimal.toFloat n.natAbs 0 == x.abs then int n else float x
    | .error _ => float x
  | d => d

/-- Whether two keys are equal as values. -/
def sameKey (a b : Datum) : Bool :=
  match a.keyForm, b.keyForm with
  | null, null => true
  | int m, int n => m = n
  | float x, float y => x == y
  | text s, text t => s = t
  | bytes s, bytes t => s = t
  | date d, date e => d = e
  | moment d c none, moment e f none => d = e && c = f
  | moment d c (some x), moment e f (some y) =>
    d.instant c x = e.instant f y && c.micros = f.micros
  | _, _ => false

end Datum

/-- A key and where it was written. Keys with the same origin are the same. -/
structure Key where
  /-- The value. -/
  value : Datum
  /-- The number of the place where it was written; all keys without one have the same origin. -/
  origin : Option Nat

namespace Key

/-- Whether two keys are the same. -/
def same (k l : Key) : Bool :=
  k.origin = l.origin || k.value.sameKey l.value

/-- Puts the value of a key into the entries of a mapping. A known key keeps its place. -/
def put {α : Type} (key : Key) (value : α) : List (Key × α) → List (Key × α)
  | [] => [(key, value)]
  | (k, v) :: entries =>
    if k.same key then (k, value) :: entries else (k, v) :: put key value entries

end Key

end SecretScan
