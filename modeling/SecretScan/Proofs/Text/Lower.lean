import Mathlib.Data.List.TakeWhile
import SecretScan.Text.Lower

/-!
# A part of a text in lower case

A part of a text becomes in lower case what it becomes by itself, with one exception. The letter
sigma has two small forms, and which one it takes depends on whether it ends a word. For a sigma
inside the part the letters that decide this stand in the part too. For one at an edge of it they
may stand outside: the part may begin in the middle of a word, or end there.

`SigmaTurns` says that such a sigma takes another form in the text than in the part by itself, and
`lowerIn_eq_lower_iff` that nothing else can make a difference.
-/

namespace SecretScan.Text

/-- A character that is not counted when the end of a word is looked for. -/
def isIgnorable (c : Char) : Bool :=
  inRanges ignorableRanges c.toNat

/-- A sigma between `before` (in reverse) and `after` ends a word. -/
def EndsWord (before after : Text) : Prop :=
  nearCased before = true ∧ nearCased after = false

/-- The lower-case form of a text between `before` (in reverse) and `after`. -/
def lowerIn (before : Text) : Text → Text → Text
  | [], _ => []
  | c :: t, after => lowerAt before c (t ++ after) ++ lowerIn (c :: before) t after

/-- A sigma at an edge of `part` takes another form between `front` and `back` than in `part` by
itself. -/
inductive SigmaTurns (front part back : Text) : Prop where
  /-- Nothing that counts comes before it in the part, and in the text it ends a word. -/
  | first {u v : Text} : part = u ++ 'Σ' :: v → (∀ c ∈ u, isIgnorable c = true) →
      EndsWord front.reverse (v ++ back) → SigmaTurns front part back
  /-- In the part it ends a word and nothing that counts comes behind it; in the text the word
  goes on. -/
  | last {u v : Text} : part = u ++ 'Σ' :: v → (∀ c ∈ v, isIgnorable c = true) →
      nearCased u.reverse = true → nearCased back = true → SigmaTurns front part back

theorem SigmaTurns.mem {front part back : Text} (h : SigmaTurns front part back) : 'Σ' ∈ part := by
  cases h with
  | first hpart => exact hpart ▸ List.mem_append_right _ List.mem_cons_self
  | last hpart => exact hpart ▸ List.mem_append_right _ List.mem_cons_self

variable {before after before' after' s t : Text} {c : Char}

/-! ## The letters around a sigma -/

theorem nearCased_eq (t : Text) :
    nearCased t = (t.dropWhile isIgnorable).head?.any fun c => inRanges casedRanges c.toNat := by
  unfold nearCased isIgnorable
  cases t.dropWhile fun c => inRanges ignorableRanges c.toNat <;> rfl

theorem nearCased_append_of_ignorable (hs : ∀ c ∈ s, isIgnorable c = true) :
    nearCased (s ++ t) = nearCased t := by
  rw [nearCased_eq, nearCased_eq, List.dropWhile_append_of_pos hs]

theorem nearCased_of_ignorable (hs : ∀ c ∈ s, isIgnorable c = true) : nearCased s = false := by
  rw [← List.append_nil s, nearCased_append_of_ignorable hs]
  rfl

/-- Behind a character that counts nothing else matters. -/
theorem nearCased_append_of_not_ignorable (hs : ¬ ∀ c ∈ s, isIgnorable c = true) :
    nearCased (s ++ t) = nearCased s := by
  have hne : s.dropWhile isIgnorable ≠ [] := fun h => hs (List.dropWhile_eq_nil_iff.mp h)
  obtain ⟨d, ds, hds⟩ := List.exists_cons_of_ne_nil hne
  rw [nearCased_eq, nearCased_eq, List.dropWhile_append, hds]
  rfl

theorem endsWord_iff : EndsWord before after ↔ (nearCased before && !nearCased after) = true := by
  rw [EndsWord, Bool.and_eq_true, Bool.not_eq_true']

/-! ## One character -/

theorem length_lowerAt (before before' after after' : Text) (c : Char) :
    (lowerAt before c after).length = (lowerAt before' c after').length := by
  unfold lowerAt
  split
  · split <;> split <;> rfl
  · rfl

theorem lowerAt_ne_nil (before after : Text) (c : Char) : lowerAt before c after ≠ [] := by
  unfold lowerAt
  split
  · split <;> exact List.cons_ne_nil _ _
  · split
    · exact List.cons_ne_nil _ _
    · split
      · exact List.cons_ne_nil _ _
      · split <;> exact List.cons_ne_nil _ _

/-- The neighbours of a character matter only if it is a sigma. -/
theorem lowerAt_eq_iff : lowerAt before c after = lowerAt before' c after' ↔
    (c = 'Σ' → (EndsWord before after ↔ EndsWord before' after')) := by
  by_cases hc : c = 'Σ'
  · subst hc
    rw [endsWord_iff, endsWord_iff, lowerAt, lowerAt, if_pos rfl, if_pos rfl]
    cases nearCased before && !nearCased after <;> cases nearCased before' && !nearCased after' <;>
      decide
  · have hsame : lowerAt before c after = lowerAt before' c after' := by
      unfold lowerAt
      rw [if_neg hc, if_neg hc]
    exact ⟨fun _ h => absurd h hc, fun _ => hsame⟩

/-! ## A part of a text -/

theorem lowerFrom_append (before s t : Text) :
    lowerFrom before (s ++ t) = lowerIn before s t ++ lowerFrom (s.reverse ++ before) t := by
  induction s generalizing before with
  | nil => rfl
  | cons c s ih =>
      rw [List.cons_append, lowerFrom, ih, lowerIn, List.reverse_cons, List.append_assoc,
        List.append_assoc]
      rfl

theorem lower_eq_lowerIn (t : Text) : lower t = lowerIn [] t [] := by
  have happend := lowerFrom_append [] t []
  rw [List.append_nil, lowerFrom, List.append_nil] at happend
  exact happend

theorem lower_ne_nil (ht : t ≠ []) : lower t ≠ [] := by
  obtain ⟨c, t, rfl⟩ := List.exists_cons_of_ne_nil ht
  exact List.append_ne_nil_of_left_ne_nil (lowerAt_ne_nil [] t c) _

/-- A part in lower case stands in the text in lower case, in the form that it takes there. -/
theorem lowerIn_isInfix_lower (front part back : Text) :
    lowerIn front.reverse part back <:+: lower (front ++ (part ++ back)) := by
  rw [lower, lowerFrom_append, lowerFrom_append, List.append_nil]
  exact ⟨_, _, List.append_assoc _ _ _⟩

/-- A text looks the same in two places if each sigma of it ends a word in both or in neither. -/
theorem lowerIn_eq_iff : lowerIn before t after = lowerIn before' t after' ↔
    ∀ u v, t = u ++ 'Σ' :: v →
      (EndsWord (u.reverse ++ before) (v ++ after)
        ↔ EndsWord (u.reverse ++ before') (v ++ after')) := by
  induction t generalizing before before' with
  | nil => exact ⟨fun _ u v h => absurd h.symm (by simp), fun _ => rfl⟩
  | cons c t ih =>
      have hlen := length_lowerAt before before' (t ++ after) (t ++ after') c
      rw [lowerIn, lowerIn, List.append_eq_append_iff_of_size_eq_left hlen, lowerAt_eq_iff, ih]
      constructor
      · rintro ⟨hc, ht⟩ u v huv
        cases u with
        | nil =>
            obtain ⟨rfl, rfl⟩ := List.cons.inj huv
            exact hc rfl
        | cons d u =>
            obtain ⟨rfl, rfl⟩ := List.cons.inj huv
            have hu := ht u v rfl
            rwa [List.reverse_cons, List.append_assoc, List.append_assoc]
      · intro h
        refine ⟨fun hc => ?_, fun u v huv => ?_⟩
        · subst hc
          exact h [] t rfl
        · have hu := h (c :: u) v (by rw [huv]; rfl)
          rwa [List.reverse_cons, List.append_assoc, List.append_assoc] at hu

/-- A sigma keeps its form unless it is at an edge and the text around decides otherwise. -/
theorem endsWord_append_iff {u v front back : Text} :
    (EndsWord (u.reverse ++ front.reverse) (v ++ back) ↔ EndsWord u.reverse v) ↔
      ¬ ((∀ c ∈ u, isIgnorable c = true) ∧ EndsWord front.reverse (v ++ back))
        ∧ ¬ ((∀ c ∈ v, isIgnorable c = true) ∧ nearCased u.reverse = true
          ∧ nearCased back = true) := by
  unfold EndsWord
  by_cases hu : ∀ c ∈ u, isIgnorable c = true
  · -- by itself the sigma comes first and ends no word
    have hrev : ∀ c ∈ u.reverse, isIgnorable c = true := fun c hc => hu c (List.mem_reverse.mp hc)
    rw [nearCased_append_of_ignorable hrev, nearCased_of_ignorable hrev]
    grind
  have hrev : ¬ ∀ c ∈ u.reverse, isIgnorable c = true := fun h =>
    hu fun c hc => h c (List.mem_reverse.mpr hc)
  rw [nearCased_append_of_not_ignorable hrev]
  by_cases hv : ∀ c ∈ v, isIgnorable c = true
  · rw [nearCased_append_of_ignorable hv, nearCased_of_ignorable hv]
    grind
  · rw [nearCased_append_of_not_ignorable hv]
    grind

/-- **A part takes another form in a text only if a sigma at an edge of it does.** -/
theorem lowerIn_eq_lower_iff {front part back : Text} :
    lowerIn front.reverse part back = lower part ↔ ¬ SigmaTurns front part back := by
  rw [lower_eq_lowerIn, lowerIn_eq_iff]
  simp only [List.append_nil, endsWord_append_iff]
  constructor
  · intro h hturns
    cases hturns with
    | first hpart hu hends => exact (h _ _ hpart).1 ⟨hu, hends⟩
    | last hpart hv hbefore hback => exact (h _ _ hpart).2 ⟨hv, hbefore, hback⟩
  · intro h u v hpart
    exact ⟨fun ⟨hu, hends⟩ => h (.first hpart hu hends),
      fun ⟨hv, hbefore, hback⟩ => h (.last hpart hv hbefore hback)⟩

end SecretScan.Text
