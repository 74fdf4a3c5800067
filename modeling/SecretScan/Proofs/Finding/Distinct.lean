import SecretScan.Proofs.Finding.Dedup

/-!
# The first finding of each key

A division goes through the findings once, with a set of keys that grows. At every place it either
keeps the finding or leaves it out, so the two lists are what the two kinds of places hold
(`Divides.exists_news`). What is kept has keys of its own, none of them seen before
(`Divides.kept_fresh`, `Divides.kept_pairwise`), and what is left out has a key that was seen before
or is that of a finding kept earlier.

From these the laws of `deduplicate` follow (`deduplicate_laws`): it may be done part by part, as
long as the keys are handed on, and once more changes nothing.
-/

namespace SecretScan

/-- The elements of a list at some of its places, in order. -/
def picked {α : Type} (p : Nat → Bool) : List α → List α
  | [] => []
  | x :: xs =>
    if p 0 then x :: picked (fun i => p (i + 1)) xs else picked (fun i => p (i + 1)) xs

/-- Whether a place is new, where that is known of the first one and of those behind it. -/
def newFrom (first : Bool) (new : Nat → Bool) : Nat → Bool
  | 0 => first
  | i + 1 => new i

/-- `HasEarlierKey seen fs new i f`: the key of `f` is one of `seen`, or that of a finding at a new
place before `i`. -/
def HasEarlierKey (seen : List FindingKey) (fs : List Finding) (new : Nat → Bool) (i : Nat)
    (f : Finding) : Prop :=
  ∃ key, f.key = .ok key
    ∧ (key ∈ seen ∨ ∃ j < i, new j = true ∧ ∃ g, fs[j]? = some g ∧ g.key = .ok key)

namespace Divides

variable {seen : List FindingKey} {fs : List Finding} {d : Division}

/-- **What is kept and what is left out are told apart place by place.** At a place that is not new
there is a finding with an earlier key. -/
theorem exists_news (h : Divides seen fs d) :
    ∃ new : Nat → Bool, d.kept = picked new fs ∧ d.duplicates = picked (fun i => !new i) fs
      ∧ ∀ i f, fs[i]? = some f → new i = false → HasEarlierKey seen fs new i f := by
  induction h with
  | nil => exact ⟨fun _ => true, rfl, rfl, nofun⟩
  | @again seen f fs key d hkey hmem _ ih =>
      obtain ⟨new, hkept, hduplicates, hearlier⟩ := ih
      refine ⟨newFrom false new, hkept, congrArg (f :: ·) hduplicates, ?_⟩
      intro i g hg hi
      cases i with
      | zero =>
          obtain rfl := Option.some.inj hg
          exact ⟨key, hkey, .inl hmem⟩
      | succ i =>
          obtain ⟨key', hkey', h⟩ := hearlier i g hg hi
          refine ⟨key', hkey', h.imp_right ?_⟩
          rintro ⟨j, hj, hnew, hfirst⟩
          exact ⟨j + 1, Nat.succ_lt_succ hj, hnew, hfirst⟩
  | @first seen f fs key d hkey _ _ ih =>
      obtain ⟨new, hkept, hduplicates, hearlier⟩ := ih
      refine ⟨newFrom true new, congrArg (f :: ·) hkept, hduplicates, ?_⟩
      intro i g hg hi
      cases i with
      | zero => cases hi
      | succ i =>
          obtain ⟨key', hkey', h⟩ := hearlier i g hg hi
          refine ⟨key', hkey', ?_⟩
          rcases h with hmem | ⟨j, hj, hnew, hfirst⟩
          · rcases List.mem_cons.mp hmem with rfl | hmem
            · -- the key was seen for the first time right here
              exact .inr ⟨0, Nat.succ_pos i, rfl, f, rfl, hkey⟩
            · exact .inl hmem
          · exact .inr ⟨j + 1, Nat.succ_lt_succ hj, hnew, hfirst⟩

/-- No key of what is kept was seen before. -/
theorem kept_fresh (h : Divides seen fs d) : ∀ f ∈ d.kept, ∀ key ∈ seen, f.key ≠ .ok key := by
  induction h with
  | nil => nofun
  | again _ _ _ ih => exact ih
  | first hkey hnot _ ih =>
      refine List.forall_mem_cons.mpr ⟨fun key' hmem heq => ?_, fun g hg key' hmem => ?_⟩
      · obtain rfl := Except.ok.inj (hkey.symm.trans heq)
        exact hnot hmem
      · exact ih g hg key' (List.mem_cons_of_mem _ hmem)

/-- Findings that are kept have different keys. -/
theorem kept_pairwise (h : Divides seen fs d) : d.kept.Pairwise fun f g => f.key ≠ g.key := by
  induction h with
  | nil => exact .nil
  | again _ _ _ ih => exact ih
  | first hkey _ hrest ih =>
      refine .cons (fun g hg heq => ?_) ih
      exact hrest.kept_fresh g hg _ List.mem_cons_self (heq.symm.trans hkey)

/-- Of what is kept nothing is left out the next time. -/
theorem kept_again (h : Divides seen fs d) : Divides seen d.kept ⟨d.kept, [], d.seen⟩ := by
  induction h with
  | nil => exact .nil
  | again _ _ _ ih => exact ih
  | first hkey hnot _ ih => exact .first hkey hnot ih

end Divides

/--
**The laws of dividing findings.**

Findings with valid locations can be divided, whatever keys have been seen before. What is kept and
what is left out share out the places of the list and stand in its order. What is kept has keys that
differ from each other and from those seen before. What is left out has a key that was seen before,
or that of a finding kept earlier. In the end the keys seen are those from before and those of what
is kept. To divide a first part, and then the others with the keys seen by then, comes to the same;
and to divide what is kept once more leaves nothing out.
-/
theorem deduplicate_laws {seen : List FindingKey} {xs ys : List Finding}
    (h : ∀ f ∈ xs ++ ys, Location.Valid f.location) :
    ∃ d, deduplicate seen (xs ++ ys) = .ok d
      ∧ (∃ new : Nat → Bool,
          d.kept = picked new (xs ++ ys) ∧ d.duplicates = picked (fun i => !new i) (xs ++ ys)
          ∧ ∀ i f, (xs ++ ys)[i]? = some f → new i = false →
              HasEarlierKey seen (xs ++ ys) new i f)
      ∧ d.kept.Pairwise (fun f g => f.key ≠ g.key)
      ∧ (∀ f ∈ d.kept, ∀ key ∈ seen, f.key ≠ .ok key)
      ∧ (∀ key, key ∈ d.seen ↔ key ∈ seen ∨ ∃ f ∈ d.kept, f.key = .ok key)
      ∧ (∃ d₁ d₂, deduplicate seen xs = .ok d₁ ∧ deduplicate d₁.seen ys = .ok d₂
          ∧ d.kept = d₁.kept ++ d₂.kept ∧ d.duplicates = d₁.duplicates ++ d₂.duplicates
          ∧ d.seen = d₂.seen)
      ∧ deduplicate seen d.kept = .ok ⟨d.kept, [], d.seen⟩ := by
  obtain ⟨d₁, hd₁⟩ := exists_divides (fun f hf => h f (List.mem_append_left ys hf)) seen
  obtain ⟨d₂, hd₂⟩ := exists_divides (fun f hf => h f (List.mem_append_right xs hf)) d₁.seen
  have hd := hd₁.append hd₂
  refine ⟨_, deduplicate_of_divides hd, hd.exists_news, hd.kept_pairwise, hd.kept_fresh,
    hd.mem_seen_iff, ?_, deduplicate_of_divides hd.kept_again⟩
  exact ⟨d₁, d₂, deduplicate_of_divides hd₁, deduplicate_of_divides hd₂, rfl, rfl, rfl⟩

/-- Two secrets in two files, each of which is fetched twice, and one of them in a third file. -/
def refetchedFindings : List Finding :=
  [("k12", "a.py?x"), ("k3", "b.py?x"), ("k12", "a.py#top"), ("k3", "b.py"), ("k12", "c.py")].map
    fun (text, location) =>
      { found :=
          { ruleId := "key", ruleName := "Key", confidence := .medium, text := text.toList,
            offset := 0, entropy := none, ignored := false }
        score := .clamp 70
        context := []
        location := location.toList
        line := 1 }

/-- The key of one file has been seen before; the other file is fetched again in the second part. -/
theorem deduplicate_laws_refetched :
    let xs := refetchedFindings.take 2
    let ys := refetchedFindings.drop 2
    let seen : List FindingKey := [⟨"key", "k3".toList, "b.py".toList⟩]
    (∀ f ∈ xs ++ ys, Location.Valid f.location)
      ∧ ∃ d, deduplicate seen (xs ++ ys) = .ok d
        ∧ d.kept.map Finding.location = ["a.py?x", "c.py"].map String.toList
        ∧ d.duplicates.map Finding.location = ["b.py?x", "a.py#top", "b.py"].map String.toList
        ∧ d.kept.Pairwise (fun f g => f.key ≠ g.key)
        ∧ deduplicate seen d.kept = .ok ⟨d.kept, [], d.seen⟩ := by
  intro xs ys seen
  have hvalid : ∀ f ∈ xs ++ ys, Location.Valid f.location := by decide +kernel
  obtain ⟨d, hd, -, hpairwise, -, -, -, hagain⟩ :=
    @deduplicate_laws seen xs ys hvalid
  have hlocations :
      (deduplicate seen (xs ++ ys)).toOption.map
        (fun d => (d.kept.map Finding.location, d.duplicates.map Finding.location))
      = some (["a.py?x", "c.py"].map String.toList,
          ["b.py?x", "a.py#top", "b.py"].map String.toList) := by
    decide +kernel
  rw [hd] at hlocations
  obtain ⟨hkept, hduplicates⟩ := Prod.mk.inj (Option.some.inj hlocations)
  exact ⟨hvalid, d, hd, hkept, hduplicates, hpairwise, hagain⟩

end SecretScan
