/-!
# Catalogues

A catalogue holds entries in the order in which their keys first came in, one entry for each key.
Putting in an entry whose key is known replaces the old entry where it stands, so a later
definition wins without changing the order.
-/

namespace SecretScan

/-- The entries `xs` with `a` in the place of the entry that has its key, or else at the end. -/
def putEntry {α : Type} (key : α → String) (a : α) : List α → List α
  | [] => [a]
  | x :: xs => if key x = key a then a :: xs else x :: putEntry key a xs

/-- A known key keeps its place and a new one comes last. -/
theorem map_key_putEntry {α : Type} (key : α → String) (a : α) (xs : List α) :
    (putEntry key a xs).map key =
      if key a ∈ xs.map key then xs.map key else xs.map key ++ [key a] := by
  induction xs with
  | nil => simp [putEntry]
  | cons x xs ih =>
    by_cases h : key x = key a
    · simp [putEntry, h]
    · have h' : key a ≠ key x := fun e => h e.symm
      rw [putEntry, if_neg h, List.map_cons, ih, List.map_cons]
      by_cases hm : key a ∈ xs.map key
      · rw [if_pos hm, if_pos (List.mem_cons_of_mem _ hm)]
      · rw [if_neg hm, if_neg (by simp only [List.mem_cons, not_or]; exact ⟨h', hm⟩),
          List.cons_append]

/-- The entries afterwards are some of those before and the one that is put in. -/
theorem mem_putEntry {α : Type} {key : α → String} {a b : α} {xs : List α}
    (h : b ∈ putEntry key a xs) : b = a ∨ b ∈ xs := by
  induction xs with
  | nil => exact .inl (List.mem_singleton.1 h)
  | cons x xs ih =>
    unfold putEntry at h
    split at h
    · exact (List.mem_cons.1 h).imp_right (List.mem_cons_of_mem x)
    · rcases List.mem_cons.1 h with rfl | h
      · exact .inr List.mem_cons_self
      · exact (ih h).imp_right (List.mem_cons_of_mem x)

/-- Putting in an entry keeps the keys distinct. -/
theorem nodup_map_key_putEntry {α : Type} {key : α → String} (a : α) {xs : List α}
    (h : (xs.map key).Nodup) : ((putEntry key a xs).map key).Nodup := by
  rw [map_key_putEntry]
  split
  · exact h
  · next hm =>
    refine List.nodup_append.2 ⟨h, by simp, fun x hx y hy e => ?_⟩
    rw [List.mem_singleton.1 hy] at e
    exact hm (e ▸ hx)

/-- Entries with distinct keys, in the order in which the keys came in. -/
structure Catalog (α : Type) (key : α → String) where
  /-- The entries. -/
  entries : List α
  /-- No two entries have the same key. -/
  distinct : (entries.map key).Nodup

namespace Catalog

variable {α : Type} {key : α → String}

/-- The catalogue without entries. -/
def empty : Catalog α key :=
  ⟨[], by simp⟩

/-- Puts in an entry; it replaces the one that has its key. -/
def put (c : Catalog α key) (a : α) : Catalog α key :=
  ⟨putEntry key a c.entries, nodup_map_key_putEntry a c.distinct⟩

/-- Puts in entries one after the other. -/
def putAll (c : Catalog α key) (as : List α) : Catalog α key :=
  as.foldl put c

/-- The keys in their order. -/
def keys (c : Catalog α key) : List String :=
  c.entries.map key

/-- The entry with key `k`. -/
def find? (c : Catalog α key) (k : String) : Option α :=
  c.entries.find? fun a => key a = k

/-- Whether an entry has the key `k`. -/
def contains (c : Catalog α key) (k : String) : Bool :=
  c.keys.contains k

/-- Every entry is found by its key. -/
theorem find?_of_mem {c : Catalog α key} {a : α} (h : a ∈ c.entries) :
    c.find? (key a) = some a := by
  have hfind (xs : List α) (hdistinct : (xs.map key).Nodup) (h : a ∈ xs) :
      xs.find? (fun b => key b = key a) = some a := by
    induction xs with
    | nil => cases h
    | cons x xs ih =>
      rw [List.map_cons, List.nodup_cons] at hdistinct
      rcases List.mem_cons.1 h with rfl | h
      · exact List.find?_cons_of_pos (decide_eq_true rfl)
      · have hne : key x ≠ key a := fun e => hdistinct.1 (e ▸ List.mem_map_of_mem h)
        rw [List.find?_cons_of_neg (by simpa using hne)]
        exact ih hdistinct.2 h
  exact hfind c.entries c.distinct h

end Catalog

end SecretScan
