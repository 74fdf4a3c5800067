import Mathlib.Data.List.Induction
import SecretScan.Catalog

/-!
# Filling a catalogue

What a catalogue holds after entries have been put in one by one. Two things can be asked of it: in
which order its keys stand, and what is found under a key. The first is decided by the entry that
brought a key in (`keys_putAll`), the second by the last one that has it (`find?_putAll`). Both
inductions take the entries from the end, since it is the entry put in last that decides. There is
no more to a catalogue than the answers to these two (`ext_of_find?`).
-/

namespace SecretScan.Catalog

variable {α : Type} {key : α → String}

theorem keys_put (c : Catalog α key) (a : α) :
    (c.put a).keys = if key a ∈ c.keys then c.keys else c.keys ++ [key a] :=
  map_key_putEntry key a c.entries

/-- The entry that was put in is found, and nothing else has changed. -/
theorem find?_put (c : Catalog α key) (a : α) (k : String) :
    (c.put a).find? k = if key a = k then some a else c.find? k := by
  show (putEntry key a c.entries).find? _ = _
  rw [find?]
  induction c.entries with
  | nil => by_cases h : key a = k <;> simp [putEntry, h]
  | cons x xs ih =>
      unfold putEntry
      by_cases hx : key x = key a
      · rw [if_pos hx, List.find?_cons, List.find?_cons, hx]
        by_cases h : key a = k <;> simp [h]
      · rw [if_neg hx, List.find?_cons, List.find?_cons]
        by_cases h : key x = k
        · -- an entry in front has the key, so the new one has another key
          have ha : key a ≠ k := fun e => hx (h.trans e.symm)
          simp [h, ha]
        · simpa [h] using ih

theorem putAll_concat (c : Catalog α key) (as : List α) (a : α) :
    c.putAll (as ++ [a]) = (c.putAll as).put a :=
  List.foldl_append

/-- **The keys stand in the order in which they first came in.** -/
theorem keys_putAll (as : List α) :
    ((empty : Catalog α key).putAll as).keys = (as.map key).eraseDups := by
  induction as using List.reverseRecOn with
  | nil => rfl
  | append_singleton as a ih =>
      rw [putAll_concat, keys_put, ih, List.map_append, List.map_singleton,
        List.eraseDups_append, List.removeAll]
      simp only [List.mem_eraseDups]
      by_cases h : key a ∈ as.map key
      · rw [if_pos h, List.filter_cons_of_neg (by simpa using h), List.filter_nil,
          List.eraseDups_nil, List.append_nil]
      · rw [if_neg h, List.filter_cons_of_pos (by simpa using h), List.filter_nil]
        rfl

/-- **Under a key the last entry that has it is found.** -/
theorem find?_putAll (c : Catalog α key) (as : List α) (k : String) :
    (c.putAll as).find? k = ((as.filter (key · = k)).getLast?).or (c.find? k) := by
  induction as using List.reverseRecOn with
  | nil => rfl
  | append_singleton as a ih =>
      rw [putAll_concat, find?_put, ih, List.filter_append, List.getLast?_append]
      by_cases h : key a = k <;> simp [h]

/-- What stands in a catalogue has been put in. -/
theorem mem_of_mem_putAll {as : List α} {a : α}
    (h : a ∈ ((empty : Catalog α key).putAll as).entries) : a ∈ as := by
  induction as using List.reverseRecOn with
  | nil => cases h
  | append_singleton as b ih =>
      rw [putAll_concat] at h
      rcases mem_putEntry h with rfl | h
      · exact List.mem_append_right as (List.mem_singleton_self a)
      · exact List.mem_append_left [b] (ih h)

/-! ## Order and contents together -/

theorem eraseDups_of_nodup {ks : List String} (h : ks.Nodup) : ks.eraseDups = ks := by
  induction ks with
  | nil => rfl
  | cons k ks ih =>
      have hfilter : (ks.filter fun k' => !k' == k) = ks :=
        List.filter_eq_self.mpr fun k' hk' => by
          have hne : k' ≠ k := fun e => (List.nodup_cons.mp h).1 (e ▸ hk')
          simpa using hne
      rw [List.eraseDups_cons, hfilter, ih (List.nodup_cons.mp h).2]

/-- The entries with a key are the one that is found under it. -/
theorem filter_key (c : Catalog α key) (k : String) :
    c.entries.filter (key · = k) = (c.find? k).toList := by
  have hfilter (xs : List α) (h : (xs.map key).Nodup) :
      xs.filter (key · = k) = (xs.find? (key · = k)).toList := by
    induction xs with
    | nil => rfl
    | cons x xs ih =>
        rw [List.map_cons, List.nodup_cons] at h
        by_cases hx : key x = k
        · have hrest : xs.filter (key · = k) = [] := by
            rw [List.filter_eq_nil_iff]
            intro y hy hk
            exact h.1 (hx ▸ of_decide_eq_true hk ▸ List.mem_map_of_mem hy)
          rw [List.filter_cons_of_pos (by simpa using hx), hrest,
            List.find?_cons_of_pos (by simpa using hx)]
          rfl
        · rw [List.filter_cons_of_neg (by simpa using hx), ih h.2,
            List.find?_cons_of_neg (by simpa using hx)]
  exact hfilter c.entries c.distinct

theorem mem_keys_iff {c : Catalog α key} {k : String} : k ∈ c.keys ↔ (c.find? k).isSome = true := by
  rw [keys, find?, List.find?_isSome, List.mem_map]
  simp only [decide_eq_true_eq]

/-- **Order and contents decide.** Catalogues are the same if their keys stand in the same order and
the same is found under each. -/
theorem ext_of_find? {c c' : Catalog α key} (hkeys : c.keys = c'.keys)
    (hfind : ∀ k, c.find? k = c'.find? k) : c = c' := by
  -- what is found under the keys, in their order, are the entries
  have hentries (c : Catalog α key) : c.keys.map c.find? = c.entries.map some := by
    rw [keys, List.map_map]
    exact List.map_congr_left fun a ha => find?_of_mem ha
  have h : c.entries.map some = c'.entries.map some := by
    rw [← hentries, ← hentries, hkeys]
    exact List.map_congr_left fun k _ => hfind k
  obtain ⟨entries, distinct⟩ := c
  obtain ⟨entries', distinct'⟩ := c'
  obtain rfl : entries = entries' := List.map_inj_right (fun _ _ => Option.some.inj) |>.mp h
  rfl

/-- Entries with distinct keys stand as they came in. -/
theorem entries_putAll_of_nodup {as : List α} (h : (as.map key).Nodup) :
    ((empty : Catalog α key).putAll as).entries = as := by
  have hkeys : ((empty : Catalog α key).putAll as).keys = (⟨as, h⟩ : Catalog α key).keys := by
    rw [keys_putAll, eraseDups_of_nodup h]
    rfl
  refine congrArg entries (ext_of_find? hkeys fun k => ?_)
  rw [find?_putAll, filter_key ⟨as, h⟩ k]
  cases (⟨as, h⟩ : Catalog α key).find? k <;> rfl

end SecretScan.Catalog
