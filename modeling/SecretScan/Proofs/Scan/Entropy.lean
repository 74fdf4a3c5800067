import Mathlib.Algebra.Ring.Nat
import Mathlib.Logic.Equiv.Basic
import SecretScan.Scan.Entropy

/-!
# What entropy depends on

The entropy of a text is a sum with one term for each character that occurs in it. Terms are added
in the order in which the characters first appear, and rounding makes this order matter. So the
entropy of a text is decided by how often its characters occur, told in that order (`counts_eq`,
`shannon_congr`), and by nothing else: neither which characters they are nor where they stand
(`shannon_depends_on_counts`).
-/

namespace SecretScan.Entropy

/-! ## Counting -/

theorem foldl_countOne_cons (c : Char) (n : Nat) (cs : List (Char × Nat)) (t : Text) :
    t.foldl (fun cs d => countOne d cs) ((c, n) :: cs)
      = (c, n + t.count c) :: (t.filter (!· == c)).foldl (fun cs d => countOne d cs) cs := by
  induction t generalizing n cs with
  | nil => rfl
  | cons d t ih =>
      rw [List.foldl_cons, countOne]
      by_cases h : c = d
      · subst h
        rw [if_pos rfl, ih, List.count_cons_self, List.filter_cons_of_neg (by simp)]
        congr 2
        omega
      · rw [if_neg h, ih, List.count_cons_of_ne (Ne.symm h),
          List.filter_cons_of_pos (by simpa using Ne.symm h), List.foldl_cons]

/-- The first character comes first, with all of its occurrences; then the others are counted. -/
theorem counts_cons (c : Char) (t : Text) :
    counts (c :: t) = (c, t.count c + 1) :: counts (t.filter (!· == c)) := by
  rw [counts, List.foldl_cons, countOne, foldl_countOne_cons, Nat.add_comm]
  rfl

/-- **Each character is counted where it first appears**, with the number of its occurrences. -/
theorem counts_eq (t : Text) : counts t = t.eraseDups.map fun c => (c, t.count c) := by
  match t with
  | [] => rfl
  | c :: t =>
    rw [counts_cons, List.eraseDups_cons, List.map_cons, List.count_cons_self,
      counts_eq (t.filter (!· == c))]
    refine congrArg (_ :: ·) (List.map_congr_left fun d hd => ?_)
    -- the characters behind the first one are others
    have hne : d ≠ c := by simpa using (List.mem_filter.mp (List.mem_eraseDups.mp hd)).2
    rw [List.count_filter (by simpa using hne), List.count_cons_of_ne (Ne.symm hne)]
  termination_by t.length
  decreasing_by exact Nat.lt_succ_of_le (List.length_filter_le _ _)

/-- How often the characters occur, in the order in which they first appear. -/
theorem map_snd_counts (t : Text) :
    (counts t).map Prod.snd = t.eraseDups.map fun c => t.count c := by
  rw [counts_eq, List.map_map]
  rfl

theorem sum_countOne (c : Char) (cs : List (Char × Nat)) :
    ((countOne c cs).map Prod.snd).sum = (cs.map Prod.snd).sum + 1 := by
  induction cs with
  | nil => rfl
  | cons x cs ih =>
      rw [countOne]
      split <;> simp only [List.map_cons, List.sum_cons, ih] <;> omega

/-- Every character is counted once. -/
theorem sum_counts (t : Text) : ((counts t).map Prod.snd).sum = t.length := by
  have hfoldl (cs : List (Char × Nat)) :
      ((t.foldl (fun cs c => countOne c cs) cs).map Prod.snd).sum
        = (cs.map Prod.snd).sum + t.length := by
    induction t generalizing cs with
    | nil => rfl
    | cons c t ih =>
        rw [List.foldl_cons, ih, sum_countOne, List.length_cons]
        omega
  exact (hfoldl []).trans (Nat.zero_add _)

/-! ## Other characters -/

variable {f : Char → Char}

theorem countOne_map (hf : f.Injective) (c : Char) (cs : List (Char × Nat)) :
    countOne (f c) (cs.map (Prod.map f id)) = (countOne c cs).map (Prod.map f id) := by
  induction cs with
  | nil => rfl
  | cons x cs ih =>
      obtain ⟨d, n⟩ := x
      rw [countOne, List.map_cons, Prod.map_apply, countOne]
      by_cases h : d = c
      · rw [if_pos h, if_pos (congrArg f h)]
        rfl
      · rw [if_neg h, if_neg (hf.ne h), ih]
        rfl

/-- Other characters in place of the same ones are counted alike. -/
theorem counts_map (hf : f.Injective) (t : Text) :
    counts (t.map f) = (counts t).map (Prod.map f id) := by
  have hfoldl (cs : List (Char × Nat)) :
      (t.map f).foldl (fun cs c => countOne c cs) (cs.map (Prod.map f id))
        = (t.foldl (fun cs c => countOne c cs) cs).map (Prod.map f id) := by
    induction t generalizing cs with
    | nil => rfl
    | cons c t ih => rw [List.map_cons, List.foldl_cons, List.foldl_cons, countOne_map hf, ih]
  exact hfoldl []

/-! ## Entropy -/

/-- **Counts decide.** -/
theorem shannon_congr {t u : Text} (h : (counts t).map Prod.snd = (counts u).map Prod.snd) :
    shannon t = shannon u := by
  have hlength : t.length = u.length := by rw [← sum_counts, h, sum_counts]
  cases t with
  | nil =>
      obtain rfl := List.length_eq_zero_iff.mp hlength.symm
      rfl
  | cons c t =>
      cases u with
      | nil => cases hlength
      | cons d u =>
          show ofCounts _ _ = ofCounts _ _
          rw [hlength, h]

/--
**Entropy depends on counts only, in the order of first appearance.**

Texts in which characters occur equally often, told in the order in which they first appear, have
the very same entropy, with no error of rounding between them. So it does not matter if every
character is replaced by another one, different ones by different ones, nor if the characters
are put in another order, as long as they first appear in the old one.
-/
theorem shannon_depends_on_counts (t : Text) :
    (∀ u : Text, (u.eraseDups.map fun c => u.count c) = (t.eraseDups.map fun c => t.count c) →
        shannon u = shannon t)
      ∧ (∀ f : Char → Char, f.Injective → shannon (t.map f) = shannon t)
      ∧ ∀ u : Text, u.Perm t → u.eraseDups = t.eraseDups → shannon u = shannon t := by
  refine ⟨fun u h => ?_, fun f hf => ?_, fun u hperm hfirst => ?_⟩
  · rw [← map_snd_counts, ← map_snd_counts] at h
    exact shannon_congr h
  · refine shannon_congr ?_
    rw [counts_map hf, List.map_map]
    rfl
  · refine shannon_congr ?_
    rw [map_snd_counts, map_snd_counts, hfirst]
    exact List.map_congr_left fun c _ => hperm.count_eq c

/-- A text in other characters, one in another order, and one that is neither. -/
theorem shannon_depends_on_counts_hex :
    let t := "0f0e00".toList
    let turned := Equiv.swap '0' 'a'
    let moved := "000fe0".toList
    let other := "xyzxxx".toList
    (Function.Injective turned ∧ t.map turned = "afaeaa".toList
        ∧ shannon (t.map turned) = shannon t)
      ∧ (moved.Perm t ∧ moved.eraseDups = t.eraseDups ∧ shannon moved = shannon t)
      ∧ (other.eraseDups.map fun c => other.count c) = (t.eraseDups.map fun c => t.count c)
      ∧ shannon other = shannon t := by
  intro t turned moved other
  obtain ⟨hcounts, hinjective, hperm⟩ := shannon_depends_on_counts t
  have hmoved : moved.Perm t := by decide
  have hfirst : moved.eraseDups = t.eraseDups := by decide +kernel
  have hother : (other.eraseDups.map fun c => other.count c)
      = (t.eraseDups.map fun c => t.count c) := by
    decide +kernel
  exact ⟨⟨turned.injective, by decide, hinjective turned turned.injective⟩,
    ⟨hmoved, hfirst, hperm moved hmoved hfirst⟩, hother, hcounts other hother⟩

end SecretScan.Entropy
