import SecretScan.Datum.Basic

/-!
# Tables

A TOML document is a table of values and further tables. A table can be opened by its own header, by
the header of a table below it, or by a key with points. Each of these may add to a table only while
it is open to it, so that no table is written in two places.
-/

namespace SecretScan.Toml

/-- How a table has been opened. -/
inductive Opening where
  /-- By the header of a table below it; its own header may follow. -/
  | implied
  /-- By its own header. -/
  | headed
  /-- By a key with points in the section with a number; other sections cannot add to it. -/
  | dotted (fromSection : Nat)
deriving DecidableEq, Repr

/-- What a key of a table stands for. -/
inductive Item where
  /-- A value; arrays and tables in brackets are complete. -/
  | value (d : Datum)
  /-- A table. -/
  | table (opening : Opening) (entries : List (Text × Item))
  /-- An array of tables: those that are complete, and the entries of the last one. -/
  | tables (complete : List Datum) (last : List (Text × Item))
deriving Inhabited

/-- The entries of a table, in the order in which they came in. -/
abbrev Entries := List (Text × Item)

mutual

/-- The value of an item. -/
def Item.datum : Item → Datum
  | .value d => d
  | .table _ entries => .map (datumEntries entries)
  | .tables complete last => .list (complete ++ [.map (datumEntries last)])

/-- The values of entries. -/
def datumEntries : List (Text × Item) → List (Datum × Datum)
  | [] => []
  | (key, item) :: entries => (.text key, item.datum) :: datumEntries entries

end

namespace Entries

/-- Puts an item under a key; it replaces the one that is there. -/
def put (key : Text) (item : Item) : Entries → Entries
  | [] => [(key, item)]
  | (k, i) :: entries =>
    if k = key then (key, item) :: entries else (k, i) :: put key item entries

/-- Puts a value under a key with points, in a section. -/
def putValue (inSection : Nat) (d : Datum) (entries : Entries) : List Text → Option Entries
  | [] => none
  | [key] => if (entries.lookup key).isSome then none else some (put key (.value d) entries)
  | key :: keys =>
    let under (inner : Entries) : Option Entries := do
      let inner ← putValue inSection d inner keys
      return put key (.table (.dotted inSection) inner) entries
    match entries.lookup key with
    | none => under []
    | some (.table .implied inner) => under inner
    | some (.table (.dotted fromSection) inner) =>
      if fromSection = inSection then under inner else none
    | some _ => none

/-- Changes the entries of the table with a name. Missing tables on the way are implied by it. -/
def update (f : Entries → Option Entries) (entries : Entries) : List Text → Option Entries
  | [] => f entries
  | name :: names =>
    match entries.lookup name with
    | none => (update f [] names).map fun inner => put name (.table .implied inner) entries
    | some (.table opening inner) =>
      (update f inner names).map fun inner => put name (.table opening inner) entries
    | some (.tables complete last) =>
      (update f last names).map fun last => put name (.tables complete last) entries
    | some (.value _) => none

/-- Opens the table `name` by its header. -/
def openTable (name : Text) (entries : Entries) : Option Entries :=
  match entries.lookup name with
  | none => some (put name (.table .headed []) entries)
  | some (.table .implied inner) => some (put name (.table .headed inner) entries)
  | some _ => none

/-- Opens one more table of the array `name`. -/
def openNext (name : Text) (entries : Entries) : Option Entries :=
  match entries.lookup name with
  | none => some (put name (.tables [] []) entries)
  | some (.tables complete last) =>
    some (put name (.tables (complete ++ [.map (datumEntries last)]) []) entries)
  | some _ => none

end Entries

end SecretScan.Toml
