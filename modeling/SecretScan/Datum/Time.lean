import SecretScan.Datum.Spelling

/-!
# Dates and times

A date is written with a four-digit year. A time of day may follow it, and after that a zone, which
is how far the clock is ahead of universal time.
-/

namespace SecretScan

/-- Why a date or a time does not exist. -/
inductive TimeFault where
  /-- There is no such year. -/
  | year (n : Nat)
  /-- There is no such month. -/
  | month
  /-- There is no such day in that month. -/
  | day
  /-- There is no such hour. -/
  | hour
  /-- There is no such minute. -/
  | minute
  /-- There is no such second. -/
  | second
  /-- A place is a day or more away from universal time. -/
  | offset (spelled : Text)
deriving DecidableEq, Repr

/-- The fault in words. -/
def TimeFault.message : TimeFault → String
  | year n => s!"year {n} is out of range"
  | month => "month must be in 1..12"
  | day => "day is out of range for month"
  | hour => "hour must be in 0..23"
  | minute => "minute must be in 0..59"
  | second => "second must be in 0..59"
  | offset spelled =>
    "offset must be a timedelta strictly between -timedelta(hours=24) and timedelta(hours=24), not "
      ++ String.ofList spelled ++ "."

/-- A time as it is written. -/
structure Stamp where
  /-- The year, the month and the day. -/
  date : Date
  /-- The time of day and how many seconds it is ahead of universal time. -/
  clock : Option (Clock × Option Int)

namespace Stamp

/-- The number that ASCII digits stand for. -/
def number (ds : Text) : Nat :=
  ds.foldl (fun n c => 10 * n + (c.toNat - 48)) 0

/-- A number of `least` to `most` digits at the front of `t`. -/
def digits? (least most : Nat) (t : Text) : Option (Nat × Text) :=
  let ds := (t.take most).takeWhile Char.isDigit
  if ds.length < least then none else some (number ds, t.drop ds.length)

/-- Whether `c` is a space or a tab. -/
def isBlank (c : Char) : Bool :=
  c = ' ' || c = '\t'

/-- The text after `c`, if it begins with that. -/
def after? (c : Char) (t : Text) : Option Text :=
  match t with
  | d :: t => if d = c then some t else none
  | [] => none

/-- The millionths that the digits after a point stand for. -/
def millionths (ds : Text) : Nat :=
  number (((ds.take 6) ++ List.replicate 6 '0').take 6)

/-- A zone at the front of `t`. -/
def zone? (t : Text) : Option (Int × Text) :=
  match t with
  | 'Z' :: t => some (0, t)
  | c :: t =>
    if c = '+' || c = '-' then do
      let (hours, t) ← digits? 1 2 t
      let (minutes, t) := match (after? ':' t).bind (digits? 2 2) with
        | some (minutes, t) => (minutes, t)
        | none => (0, t)
      let seconds : Int := (60 * (60 * hours + minutes) : Nat)
      return (if c = '-' then -seconds else seconds, t)
    else none
  | [] => none

/-- Whether the text is at its end or at a newline that ends it. -/
def isOver (t : Text) : Bool :=
  t = [] || t = ['\n']

/-- A time of day that is all of `t`. -/
def clock? (t : Text) : Option (Clock × Option Int) := do
  let t ← match t with
    | 'T' :: t => some t
    | 't' :: t => some t
    | c :: t => if isBlank c then some (t.dropWhile isBlank) else none
    | [] => none
  let (hour, t) ← digits? 1 2 t
  let (minute, t) ← digits? 2 2 (← after? ':' t)
  let (second, t) ← digits? 2 2 (← after? ':' t)
  let (micros, t) := match after? '.' t with
    | some t => (millionths (t.takeWhile Char.isDigit), t.dropWhile Char.isDigit)
    | none => (0, t)
  let clock : Clock := ⟨hour, minute, second, micros⟩
  if isOver t then return (clock, none)
  let (offset, t) ← zone? (t.dropWhile isBlank)
  if isOver t then return (clock, some offset) else none

/-- A date or a time that is all of `t`. -/
def read? (t : Text) : Option Stamp := do
  let (year, t) ← digits? 4 4 t
  let (month, t) ← digits? 1 2 (← after? '-' t)
  let (day, t) ← digits? 1 2 (← after? '-' t)
  let date : Date := ⟨year, month, day⟩
  if isOver t then return ⟨date, none⟩
  return ⟨date, some (← clock? t)⟩

/-- Whether a year has a 29th of February. -/
def isLeap (year : Nat) : Bool :=
  year % 4 = 0 && (year % 100 ≠ 0 || year % 400 = 0)

/-- How many days a month has. -/
def monthLength (year month : Nat) : Nat :=
  if month = 2 then (if isLeap year then 29 else 28)
  else if month ∈ [4, 6, 9, 11] then 30 else 31

/-- What is wrong with a date. -/
def dateFault? (d : Date) : Option TimeFault :=
  if d.year = 0 then some (.year d.year)
  else if d.month < 1 || 12 < d.month then some .month
  else if d.day < 1 || monthLength d.year d.month < d.day then some .day
  else none

/-- What is wrong with a time of day. -/
def clockFault? (c : Clock) : Option TimeFault :=
  if 23 < c.hour then some .hour
  else if 59 < c.minute then some .minute
  else if 59 < c.second then some .second
  else none

/-- What is wrong with a zone. -/
def zoneFault? (offset : Option Int) : Option TimeFault :=
  match offset with
  | some offset => if 86400 ≤ offset.natAbs then some (.offset (Datum.spellDuration offset)) else none
  | none => none

/-- The value of a time that is written like one. -/
def value (s : Stamp) : Except TimeFault Datum :=
  let fault := match s.clock with
    | none => dateFault? s.date
    | some (clock, offset) => zoneFault? offset <|> dateFault? s.date <|> clockFault? clock
  match fault, s.clock with
  | some f, _ => .error f
  | none, none => .ok (.date s.date)
  | none, some (clock, offset) => .ok (.moment s.date clock offset)

end Stamp

end SecretScan
