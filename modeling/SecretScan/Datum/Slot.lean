import SecretScan.Datum.Basic
import SecretScan.Decimal.Binary

/-!
# Order in sets

The members of a set have no order of their own. They are kept in the slots of a table and come out
slot by slot. A number tells by its value which slot it would like to have, and gives way to the
members that came before it. Nothing is known about the slots of other members: a set that has some
keeps its members as they came in.
-/

namespace SecretScan.Datum

/-- The modulus of the numbers from which slots are derived: one less than a power of two, so that
to it powers of two repeat after 61 of them. -/
def slotModulus : Nat := 0x1FFFFFFFFFFFFFFF

/-- What the slot of a number is derived from: its value, reduced. It is never -1. -/
def slotSeed (negative : Bool) (reduced : Nat) : Int :=
  if !negative then reduced else if reduced = 1 then -2 else -reduced

/-- What the slot of a member is derived from, if it is a number. -/
def seed? : Datum → Option Int
  | bool b => some (if b then 1 else 0)
  | int n => some (slotSeed (n < 0) (n.natAbs % slotModulus))
  | float x =>
    match Decimal.Binary.ofFloat x with
    | .nan => none
    | .infinite negative => some (slotSeed negative 314159)
    | .finite negative mantissa exponent =>
      some (slotSeed negative (mantissa * Decimal.twos (exponent % 61) % slotModulus))
  | _ => none

/-- How many slots a table for `n` members has: always a power of two, and more than twice as many
as members if these are not few. -/
def slotCount (n : Nat) : Nat :=
  if n < 5 then 8 else Nat.pow 2 ((2 * n).log2 + 1)

/-- The first slot that is not taken, beginning with slot `i`. Where there is room the nine slots
behind it are tried too. The next slot to begin with depends on `rest`, what is left of the seed;
when nothing is left all slots have their turn, so `fuel` that is larger is never used up. -/
def freeSlot (size : Nat) (taken : List Nat) : (fuel rest i : Nat) → Nat
  | 0, _, i => i
  | fuel + 1, rest, i =>
    match (List.range' i (if i + 9 < size then 10 else 1)).find? (· ∉ taken) with
    | some j => j
    | none => freeSlot size taken fuel (rest / 32) ((5 * i + 1 + rest / 32) % size)

/-- The slot of a member with a seed, when others are taken. The seed counts as a word of 64
bits. -/
def slotOf (size : Nat) (taken : List Nat) (seed : Int) : Nat :=
  let rest := (seed % 0x10000000000000000).toNat
  freeSlot size taken (size + 16) rest (rest % size)

/-- Members with their slots. Each one finds its slot after those before it. -/
def slots (size : Nat) : List (Nat × Datum) → List (Int × Datum) → List (Nat × Datum)
  | placed, [] => placed
  | placed, (seed, d) :: members =>
    slots size ((slotOf size (placed.map Prod.fst) seed, d) :: placed) members

/-- The members of a set in the order in which they come out. -/
def inSlots (members : List Datum) : List Datum :=
  match members.mapM fun d => d.seed?.map fun seed => (seed, d) with
  | some seeded =>
    ((slots (slotCount members.length) [] seeded).mergeSort fun a b => a.1 ≤ b.1).map Prod.snd
  | none => members

end SecretScan.Datum
