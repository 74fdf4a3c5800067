import SecretScan.Datum.Time
import SecretScan.Decimal.Numeral

/-!
# Numbers and times in TOML

A number or a time is the longest text of its form; what comes after it is left over. Single
underscores may stand between digits.
-/

namespace SecretScan.Toml

/-- What is wrong with a document. -/
inductive Fault where
  /-- It is not in TOML. -/
  | malformed
  /-- A whole number has too many digits. -/
  | tooManyDigits (count : Nat)
deriving DecidableEq, Repr

/-- What has to be there. -/
def needed {α : Type} : Option α → Except Fault α
  | some a => .ok a
  | none => .error .malformed

/-- A number of exactly `n` digits, and what comes after it. -/
def digits? (n : Nat) (t : Text) : Option (Nat × Text) :=
  Stamp.digits? n n t

/-- A two-digit number between `least` and `greatest` after `c`. -/
def field? (c : Char) (least greatest : Nat) (t : Text) : Option (Nat × Text) := do
  let (n, t) ← digits? 2 (← Stamp.after? c t)
  if least ≤ n && n ≤ greatest then return (n, t) else none

/-- The millionths at the front of `t`. -/
def fraction (t : Text) : Nat × Text :=
  match t with
  | '.' :: rest =>
    let ds := rest.takeWhile Char.isDigit
    if ds.isEmpty then (0, t) else (Stamp.millionths ds, rest.drop ds.length)
  | t => (0, t)

/-- A time of day at the front of `t`, and what comes after it. -/
def clock? (t : Text) : Option (Clock × Text) := do
  let (hour, t) ← digits? 2 t
  let (minute, t) ← field? ':' 0 59 t
  let (second, t) ← field? ':' 0 59 t
  let (micros, t) := fraction t
  if hour ≤ 23 then return (⟨hour, minute, second, micros⟩, t) else none

/-- A distance from universal time at the front of `t`. -/
def offset? (t : Text) : Option (Int × Text) :=
  match t with
  | c :: rest =>
    if c = 'Z' || c = 'z' then some (0, rest)
    else if c = '+' || c = '-' then do
      let (hours, rest) ← digits? 2 rest
      let (minutes, rest) ← field? ':' 0 59 rest
      let seconds : Int := (60 * (60 * hours + minutes) : Nat)
      if hours ≤ 23 then return (if c = '-' then -seconds else seconds, rest) else none
    else none
  | [] => none

/-- A date at the front of `t`, and what comes after it. -/
def date? (t : Text) : Option (Date × Text) := do
  let (year, t) ← digits? 4 t
  let (month, t) ← field? '-' 1 12 t
  let (day, t) ← field? '-' 1 31 t
  return (⟨year, month, day⟩, t)

/-- A time of day after a date. -/
def dayTime? (t : Text) : Option ((Clock × Option Int) × Text) :=
  match t with
  | c :: rest =>
    if c = 'T' || c = 't' || c = ' ' then do
      let (clock, rest) ← clock? rest
      match offset? rest with
      | some (offset, rest) => return ((clock, some offset), rest)
      | none => return ((clock, none), rest)
    else none
  | [] => none

/-- A date or a time at the front of `t`. The outer result tells whether there is one, the inner one
whether it exists in the calendar. -/
def time? (t : Text) : Option (Option (Datum × Text)) :=
  match date? t with
  | some (date, rest) =>
    let (stamp, rest) : Stamp × Text := match dayTime? rest with
      | some (clock, rest) => (⟨date, some clock⟩, rest)
      | none => (⟨date, none⟩, rest)
    some (stamp.value.toOption.map fun d => (d, rest))
  | none => (clock? t).map fun (clock, rest) => some (.clock clock, rest)

/-- The length of the digits at the front of `t`, with single underscores between them. -/
def digitsLength (isDigit : Char → Bool) : Text → Nat
  | [] => 0
  | c :: t =>
    if isDigit c then
      match t with
      | '_' :: d :: rest => if isDigit d then digitsLength isDigit (d :: rest) + 2 else 1
      | t => digitsLength isDigit t + 1
    else 0

/-- A whole number in base `radix` after its mark. -/
def radixNumber? (radix : Nat) (t : Text) : Option (Datum × Text) :=
  let n := digitsLength (fun c => (Decimal.digitIn? radix c).isSome) t
  if n = 0 then none
  else
    (Decimal.readIntIn? radix ((t.take n).filter (· ≠ '_'))).map fun value => (.int value, t.drop n)

/-- The length of the fraction at the front of `t`. -/
def fractionLength (t : Text) : Nat :=
  match t with
  | '.' :: t =>
    let n := digitsLength Char.isDigit t
    if n = 0 then 0 else n + 1
  | _ => 0

/-- The length of the exponent at the front of `t`. -/
def exponentLength (t : Text) : Nat :=
  match t with
  | c :: t =>
    if c = 'e' || c = 'E' then
      let sign := if t.head? = some '+' || t.head? = some '-' then 1 else 0
      let n := digitsLength Char.isDigit (t.drop sign)
      if n = 0 then 0 else 1 + sign + n
    else 0
  | [] => 0

/-- A decimal number at the front of `t`. The whole part has no zeros before its other digits. -/
def decimalNumber? (t : Text) : Option (Except Fault (Datum × Text)) :=
  let sign := if t.head? = some '+' || t.head? = some '-' then 1 else 0
  let magnitude := t.drop sign
  let whole := if magnitude.head? = some '0' then 1 else digitsLength Char.isDigit magnitude
  if whole = 0 then none
  else
    let fraction := fractionLength (magnitude.drop whole)
    let exponent := exponentLength (magnitude.drop (whole + fraction))
    let n := sign + whole + fraction + exponent
    let numeral := t.take n
    if fraction + exponent = 0 then
      match Decimal.readInt numeral with
      | .ok i => some (.ok (.int i, t.drop n))
      | .error (.tooLong count) => some (.error (.tooManyDigits count))
      | .error .malformed => none
    else (Decimal.readFloat? numeral).map fun x => .ok (.float x, t.drop n)

/-- An infinity or not-a-number at the front of `t`. -/
def specialNumber? (t : Text) : Option (Datum × Text) :=
  let sign := if t.head? = some '+' || t.head? = some '-' then 1 else 0
  let word := (t.drop sign).take 3
  if word = "inf".toList || word = "nan".toList then
    (Decimal.readFloat? (t.take (sign + 3))).map fun x => (.float x, t.drop (sign + 3))
  else none

/-- A number at the front of `t`. -/
def number (t : Text) : Except Fault (Datum × Text) :=
  let marked := match t with
    | '0' :: 'x' :: rest => radixNumber? 16 rest
    | '0' :: 'b' :: rest => radixNumber? 2 rest
    | '0' :: 'o' :: rest => radixNumber? 8 rest
    | _ => none
  match marked <|> specialNumber? t, decimalNumber? t with
  | some result, _ => .ok result
  | none, some result => result
  | none, none => .error .malformed

end SecretScan.Toml
