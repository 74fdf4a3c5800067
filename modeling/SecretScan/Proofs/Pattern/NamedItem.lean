import Mathlib.Data.List.TakeWhile
import SecretScan.Pattern.Walk

/-!
# Named items of a class

At a `[` inside a class the walk looks ahead for a named item such as `[:alpha:]`. This module says
what such an item is (`ItemName`), and that the walk recognises exactly these
(`namedItemLength?_eq_some`). An item ends at the first `]`, so the walk never looks further than
that (`namedItemLength?_congr`).
-/

namespace SecretScan.Pattern

/-- What stands between the `[` and the `]` of a named item. -/
inductive ItemName : Text → Prop where
  | plain {letters : Text} : letters ≠ [] → (∀ c ∈ letters, c.isAlpha = true) →
      ItemName (':' :: (letters ++ [':']))
  | negated {letters : Text} : letters ≠ [] → (∀ c ∈ letters, c.isAlpha = true) →
      ItemName (':' :: '^' :: (letters ++ [':']))

/-- A named item holds neither a `]` nor a backslash. -/
theorem ItemName.inert {name : Text} (h : ItemName name) : ∀ c ∈ name, c ≠ ']' ∧ c ≠ '\\' := by
  have letter : ∀ c : Char, c.isAlpha = true → c ≠ ']' ∧ c ≠ '\\' := by
    intro c hc
    refine ⟨?_, ?_⟩
    · rintro rfl
      exact absurd hc (by decide)
    · rintro rfl
      exact absurd hc (by decide)
  intro c hc
  cases h with
  | plain _ hl =>
      simp only [List.mem_cons, List.mem_append, List.not_mem_nil, or_false] at hc
      rcases hc with rfl | hc | rfl
      · decide
      · exact letter c (hl c hc)
      · decide
  | negated _ hl =>
      simp only [List.mem_cons, List.mem_append, List.not_mem_nil, or_false] at hc
      rcases hc with rfl | rfl | hc | rfl
      · decide
      · decide
      · exact letter c (hl c hc)
      · decide

/-! ## Items are recognised -/

/-- The length of an item behind its `[:` and its negation, which is `taken` characters long. -/
def itemBodyLength? (taken : Nat) (s : Text) : Option Nat :=
  match s.takeWhile Char.isAlpha, s.drop (s.takeWhile Char.isAlpha).length with
  | _ :: _, ':' :: ']' :: _ => some (taken + (s.takeWhile Char.isAlpha).length + 4)
  | _, _ => none

theorem namedItemLength?_negated (s : Text) :
    namedItemLength? ('[' :: ':' :: '^' :: s) = itemBodyLength? 1 s := rfl

theorem namedItemLength?_plain {s : Text} (h : ∀ r, s ≠ '^' :: r) :
    namedItemLength? ('[' :: ':' :: s) = itemBodyLength? 0 s := by
  rw [namedItemLength?]
  · rfl
  · exact h

theorem itemBodyLength?_eq_some {taken n : Nat} {s : Text} :
    itemBodyLength? taken s = some n ↔
      ∃ letters rest, letters ≠ [] ∧ (∀ c ∈ letters, c.isAlpha = true)
        ∧ s = letters ++ ':' :: ']' :: rest ∧ n = taken + letters.length + 4 := by
  constructor
  · intro h
    unfold itemBodyLength? at h
    split at h
    · next c cs rest hname hrest =>
        have hs := List.prefix_iff_eq_append.mp (List.takeWhile_prefix (l := s) Char.isAlpha)
        rw [hrest] at hs
        refine ⟨s.takeWhile Char.isAlpha, rest, ?_, ?_, hs.symm, (Option.some.inj h).symm⟩
        · rw [hname]
          exact List.cons_ne_nil c cs
        · exact fun c hc => List.mem_takeWhile_imp hc
    · cases h
  · rintro ⟨letters, rest, hne, hl, rfl, rfl⟩
    have htake : (letters ++ ':' :: ']' :: rest).takeWhile Char.isAlpha = letters := by
      rw [List.takeWhile_append_of_pos hl]
      exact List.append_nil letters
    unfold itemBodyLength?
    rw [htake, List.drop_left]
    cases letters with
    | nil => exact absurd rfl hne
    | cons c cs => rfl

/-- **The walk recognises exactly the named items.** -/
theorem namedItemLength?_eq_some {s : Text} {n : Nat} :
    namedItemLength? ('[' :: s) = some n ↔
      ∃ name rest, ItemName name ∧ s = name ++ ']' :: rest ∧ n = name.length + 2 := by
  constructor
  · intro h
    match s with
    | [] => cases h
    | c :: s =>
      by_cases hc : c = ':'
      · subst hc
        by_cases hneg : ∃ r, s = '^' :: r
        · obtain ⟨r, rfl⟩ := hneg
          rw [namedItemLength?_negated, itemBodyLength?_eq_some] at h
          obtain ⟨letters, rest, hne, hl, rfl, rfl⟩ := h
          exact ⟨_, rest, .negated hne hl, by simp, by simp; omega⟩
        · rw [namedItemLength?_plain (fun r e => hneg ⟨r, e⟩), itemBodyLength?_eq_some] at h
          obtain ⟨letters, rest, hne, hl, rfl, rfl⟩ := h
          exact ⟨_, rest, .plain hne hl, by simp, by simp⟩
      · unfold namedItemLength? at h
        split at h
        · next heq => simp only [List.cons.injEq] at heq; exact absurd heq.2.1 hc
        · cases h
  · rintro ⟨name, rest, hname, rfl, rfl⟩
    cases hname with
    | @plain letters hne hl =>
        have hcaret : ∀ r, letters ++ [':'] ++ ']' :: rest ≠ '^' :: r := by
          intro r e
          cases letters with
          | nil => exact hne rfl
          | cons c cs =>
              have hc : c = '^' := (List.cons.inj e).1
              have := hl c List.mem_cons_self
              rw [hc] at this
              exact absurd this (by decide)
        rw [List.cons_append, namedItemLength?_plain hcaret, itemBodyLength?_eq_some]
        exact ⟨letters, rest, hne, hl, by simp, by simp⟩
    | @negated letters hne hl =>
        rw [List.cons_append, List.cons_append, namedItemLength?_negated, itemBodyLength?_eq_some]
        exact ⟨letters, rest, hne, hl, by simp, by simp; omega⟩

/-! ## Items end at the first `]` -/

/-- What stands in front of the first `d` is determined. -/
theorem takeWhile_ne_append {d : Char} {a r : Text} (h : ∀ c ∈ a, c ≠ d) :
    (a ++ d :: r).takeWhile (· ≠ d) = a := by
  rw [List.takeWhile_append_of_pos (by simpa using h), List.takeWhile_cons_of_neg (by simp),
    List.append_nil]

theorem dropWhile_ne_append {a r : Text} (h : ∀ c ∈ a, c ≠ ']') :
    (a ++ ']' :: r).dropWhile (· ≠ ']') = ']' :: r := by
  rw [List.dropWhile_append_of_pos (by simpa using h)]
  exact List.dropWhile_cons_of_neg (by decide)

/-- What stands in front of the first `]`, and what follows it, are determined. -/
theorem eq_of_first_close {a b r s : Text} (ha : ∀ c ∈ a, c ≠ ']') (hb : ∀ c ∈ b, c ≠ ']')
    (h : a ++ ']' :: r = b ++ ']' :: s) : a = b ∧ r = s := by
  have heq : a = b := by
    have htake := congrArg (List.takeWhile (· ≠ ']')) h
    rwa [takeWhile_ne_append ha, takeWhile_ne_append hb] at htake
  subst heq
  exact ⟨rfl, (List.cons.inj (List.append_cancel_left h)).2⟩

/-- What follows the first `]` has no influence. -/
theorem namedItemLength?_congr {t : Text} (h : ']' ∈ t) (u v : Text) :
    namedItemLength? ('[' :: (t ++ u)) = namedItemLength? ('[' :: (t ++ v)) := by
  obtain ⟨a, b, rfl, ha⟩ := List.eq_append_cons_of_mem h
  have hclose : ∀ c ∈ a, c ≠ ']' := fun c hc e => ha (e ▸ hc)
  -- an item in front of one text is an item in front of the other
  have key : ∀ u v n, namedItemLength? ('[' :: (a ++ ']' :: b ++ u)) = some n →
      namedItemLength? ('[' :: (a ++ ']' :: b ++ v)) = some n := by
    intro u v n hn
    obtain ⟨name, rest, hname, hs, hlen⟩ := namedItemLength?_eq_some.mp hn
    have heq : a = name := by
      have := congrArg (List.takeWhile (· ≠ ']')) hs
      rwa [List.append_assoc, List.cons_append, takeWhile_ne_append hclose,
        takeWhile_ne_append fun c hc => (hname.inert c hc).1] at this
    exact namedItemLength?_eq_some.mpr ⟨name, b ++ v, hname, by simp [heq], hlen⟩
  cases hu : namedItemLength? ('[' :: (a ++ ']' :: b ++ u)) with
  | some n => exact (key u v n hu).symm
  | none =>
      cases hv : namedItemLength? ('[' :: (a ++ ']' :: b ++ v)) with
      | none => rfl
      | some n => rw [key v u n hv] at hu; cases hu

end SecretScan.Pattern
