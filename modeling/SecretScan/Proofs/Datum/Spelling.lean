import Mathlib.Data.List.Basic
import SecretScan.Datum.Spelling

/-!
# What is given has a spelling

A value counts as given if it is not absent, false, zero or empty. Every value but a text is spelled
with at least one character (`spellInside_ne_nil`), and a text is given only if it has one, so what
is given is never spelled as the empty text (`toText_ne_nil`). In the same way a value that is given
has parts, if it is made of any (`parts?_ne_nil`).
-/

namespace SecretScan

/-! ## Numbers -/

theorem Decimal.layout_ne_nil (ds : Text) (point : Int) : layout ds point ≠ [] := by
  unfold layout
  split
  · exact List.append_ne_nil_of_right_ne_nil _ (List.cons_ne_nil _ _)
  · split
    · exact List.cons_ne_nil _ _
    · exact List.append_ne_nil_of_right_ne_nil _ (List.cons_ne_nil _ _)

theorem Decimal.signed_ne_nil {t : Text} (negative : Bool) (ht : t ≠ []) :
    signed negative t ≠ [] := by
  cases negative with
  | false => exact ht
  | true => exact List.cons_ne_nil _ _

theorem Decimal.shortest_ne_nil (x : Float) : (shortest x).toList ≠ [] := by
  unfold shortest shortestWith
  rw [String.toList_ofList]
  split
  · decide
  · exact signed_ne_nil _ (by decide)
  · exact signed_ne_nil _ (layout_ne_nil _ _)

theorem toList_toString_ne_nil (n : Int) : (toString n).toList ≠ [] := by
  cases n with
  | ofNat n =>
      show n.repr.toList ≠ []
      rw [Nat.toList_repr]
      exact Nat.toDigits_ne_nil
  | negSucc n =>
      show ("-" ++ (n + 1).repr).toList ≠ []
      rw [String.toList_append]
      exact List.append_ne_nil_of_left_ne_nil (by decide) _

namespace Datum

/-! ## Spellings -/

theorem dots_ne_nil (inBraces : Bool) : dots inBraces ≠ [] := by
  cases inBraces <;> decide

theorem call_ne_nil (name : String) (arguments : List Text) : call name arguments ≠ [] :=
  List.append_ne_nil_of_left_ne_nil
    (List.append_ne_nil_of_right_ne_nil _ (List.cons_ne_nil _ _)) _

/-- Inside of another value every value is spelled with at least one character. -/
theorem spellInside_ne_nil (around : List (Nat × Bool)) : (d : Datum) → d.spellInside around ≠ []
  | null => by simp [spellInside]
  | bool b => by cases b <;> simp [spellInside]
  | int n => by
      rw [spellInside]
      exact toList_toString_ne_nil n
  | float x => by
      rw [spellInside]
      exact Decimal.shortest_ne_nil x
  | text t => by simp [spellInside, Text.quoted]
  | bytes bs => by simp [spellInside, spellBytes]
  | date d => by
      rw [spellInside]
      exact call_ne_nil _ _
  | moment d c offset => by
      rw [spellInside.eq_def]
      exact call_ne_nil _ _
  | clock c => by
      rw [spellInside]
      exact call_ne_nil _ _
  | list items => by simp [spellInside]
  | pair first second => by simp [spellInside]
  | map entries => by simp [spellInside]
  | set items => by
      rw [spellInside]
      split
      · decide
      · exact List.cons_ne_nil _ _
  | knot number body => by
      rw [spellInside]
      split
      · exact dots_ne_nil _
      · exact spellInside_ne_nil _ body
  | again number => by
      rw [spellInside]
      exact dots_ne_nil _

theorem spellDate_ne_nil (d : Date) : spellDate d ≠ [] :=
  List.append_ne_nil_of_right_ne_nil _ (List.cons_ne_nil _ _)

theorem spellClock_ne_nil (c : Clock) : spellClock c ≠ [] :=
  List.append_ne_nil_of_left_ne_nil
    (List.append_ne_nil_of_right_ne_nil _ (List.cons_ne_nil _ _)) _

/-- **What is given is not spelled as the empty text.** -/
theorem spell_ne_nil {d : Datum} (h : d.isGiven = true) : d.spell ≠ [] := by
  cases d with
  | text t =>
      intro ht
      rw [isGiven, show t = [] from ht] at h
      cases h
  | date d => exact spellDate_ne_nil d
  | clock c => exact spellClock_ne_nil c
  | moment d c offset =>
      exact List.append_ne_nil_of_left_ne_nil
        (List.append_ne_nil_of_left_ne_nil (spellDate_ne_nil d) _) _
  | _ => exact spellInside_ne_nil [] _

/-! ## Parts -/

theorem isGiven_fill {number : Nat} {whole : Datum} (hwhole : whole.isGiven = true) :
    {d : Datum} → d.isGiven = true → (fill number whole d).isGiven = true
  | list items, h => by
      cases items with
      | nil => cases h
      | cons item items => rfl
  | set items, h => by
      cases items with
      | nil => cases h
      | cons item items => rfl
  | map entries, h => by
      cases entries with
      | nil => cases h
      | cons entry entries => rfl
  | knot other body, h => by
      rw [fill, isGiven]
      exact isGiven_fill hwhole (d := body) h
  | again other, _ => by
      rw [fill]
      split
      · exact hwhole
      · rfl
  | pair _ _, _ | date _, _ | moment _ _ _, _ | clock _, _ => rfl
  | bool _, h | int _, h | float _, h | text _, h | bytes _, h => h

theorem isGiven_untied {d : Datum} (h : d.isGiven = true) : d.untied.isGiven = true := by
  cases d with
  | knot number body => exact isGiven_fill h (d := body) h
  | _ => exact h

/-- **What is given is not made of no parts.** -/
theorem parts?_ne_nil {d : Datum} (h : d.isGiven = true) : d.parts? ≠ some [] := by
  have hgiven := isGiven_untied h
  unfold parts?
  cases huntied : d.untied <;> rw [huntied] at hgiven <;> simp_all [isGiven]

end Datum

end SecretScan
