import Mathlib.Algebra.Order.Ring.Int
import Mathlib.Data.Prod.Lex
import Mathlib.Order.Compare

/-!
# The order of floating-point numbers

Thresholds are floating-point numbers and are compared as such: what is not a number is neither
below nor above anything, and the two zeros are equal. So the comparisons are no order on all of
`Float`, but they can be chained wherever they hold. For this every number gets a rank, by its sign
first, then by its exponent, then by its mantissa; numbers compare as their ranks do
(`compare_eq_rank`), and ranks are ordered.
-/

namespace SecretScan.Decimal

open Float.Model

/-- The rank of a number: negative infinity, the negative numbers, the zeros, the positive numbers,
positive infinity. Numbers of one sign are told apart by the exponent and then by the mantissa. -/
def rank : UnpackedFloat → ℤ ×ₗ ℤ ×ₗ ℤ
  | .infinity .negative => toLex (-2, toLex (0, 0))
  | .finite .negative mantissa exponent _ => toLex (-1, toLex (-exponent, -mantissa))
  | .finite .positive mantissa exponent _ => toLex (1, toLex (exponent, mantissa))
  | .infinity .positive => toLex (2, toLex (0, 0))
  | .zero _ => toLex (0, toLex (0, 0))
  | .notANumber => toLex (0, toLex (0, 0))

theorem compare_natCast (m n : ℕ) : compare (m : ℤ) n = compare m n := by
  rw [← cmp_eq_compare, ← cmp_eq_compare]
  exact Nat.strictMono_cast.cmp_map_eq m n

theorem compare_neg_neg (a b : ℤ) : compare (-a) (-b) = (compare a b).swap := by
  have hanti : StrictAnti fun a : ℤ => -a := fun _ _ => neg_lt_neg
  rw [← cmp_eq_compare, ← cmp_eq_compare, cmp_swap]
  exact hanti.cmp_map_eq a b

/-- Numbers compare as their ranks do. -/
theorem compare_eq_rank {a b : UnpackedFloat} (ha : a ≠ .notANumber) (hb : b ≠ .notANumber) :
    a.compare b = some (compare (rank a) (rank b)) := by
  cases a with
  | notANumber => exact absurd rfl ha
  | infinity s =>
      cases b with
      | notANumber => exact absurd rfl hb
      | infinity t => cases s <;> cases t <;> rfl
      | zero t => cases s <;> rfl
      | finite t m e h => cases s <;> cases t <;> rfl
  | zero s =>
      cases b with
      | notANumber => exact absurd rfl hb
      | infinity t => cases t <;> rfl
      | zero t => rfl
      | finite t m e h => cases t <;> rfl
  | finite s m e h =>
      cases b with
      | notANumber => exact absurd rfl hb
      | infinity t => cases s <;> cases t <;> rfl
      | zero t => cases s <;> rfl
      | finite t m' e' h' =>
          cases s <;> cases t
          · -- of two negative numbers the one with the larger magnitude is the smaller one
            change some ((compare e e').then (compare m m')).swap
              = some (compare (toLex ((-1 : ℤ), toLex (-e, -(m : ℤ))))
                  (toLex ((-1 : ℤ), toLex (-e', -(m' : ℤ)))))
            simp [Prod.Lex.compare_def, compareLex, compareOn, compare_neg_neg, compare_natCast,
              Ordering.swap_then]
          · rfl
          · rfl
          · change some ((compare e e').then (compare m m'))
              = some (compare (toLex ((1 : ℤ), toLex (e, (m : ℤ))))
                  (toLex ((1 : ℤ), toLex (e', (m' : ℤ)))))
            simp [Prod.Lex.compare_def, compareLex, compareOn, compare_natCast]

/-- Only numbers can be compared. -/
theorem ne_notANumber_of_compare {a b : UnpackedFloat} {o : Ordering} (h : a.compare b = some o) :
    a ≠ .notANumber ∧ b ≠ .notANumber := by
  constructor
  · rintro rfl
    cases h
  · rintro rfl
    cases a <;> cases h

/-! ## Comparisons of floats -/

/-- Whether a float stands for a number. -/
abbrev IsNumber (x : Float) : Prop :=
  x.toModel.unpack ≠ .notANumber

/-- The rank of what a float stands for. -/
abbrev rankOf (x : Float) : ℤ ×ₗ ℤ ×ₗ ℤ :=
  rank x.toModel.unpack

theorem float_lt_iff {x y : Float} : x < y ↔ IsNumber x ∧ IsNumber y ∧ rankOf x < rankOf y := by
  have hcompare : x < y ↔ x.toModel.unpack.compare y.toModel.unpack = some .lt := by
    change decide (x.toModel < y.toModel) = true ↔ _
    rw [decide_eq_true_iff]
    change (x.toModel.unpack.compare y.toModel.unpack == some .lt) = true ↔ _
    rw [beq_iff_eq]
  rw [hcompare]
  constructor
  · intro h
    obtain ⟨hx, hy⟩ := ne_notANumber_of_compare h
    rw [compare_eq_rank hx hy, Option.some.injEq, compare_lt_iff_lt] at h
    exact ⟨hx, hy, h⟩
  · rintro ⟨hx, hy, h⟩
    rw [compare_eq_rank hx hy, compare_lt_iff_lt.mpr h]

theorem float_le_iff {x y : Float} : x ≤ y ↔ IsNumber x ∧ IsNumber y ∧ rankOf x ≤ rankOf y := by
  have hcompare : x ≤ y ↔
      ∃ o, x.toModel.unpack.compare y.toModel.unpack = some o ∧ o.isLE = true := by
    change decide (x.toModel ≤ y.toModel) = true ↔ _
    rw [decide_eq_true_iff]
    change (x.toModel.unpack.compare y.toModel.unpack).any (·.isLE) = true ↔ _
    rw [Option.any_eq_true]
  rw [hcompare]
  constructor
  · rintro ⟨o, h, hle⟩
    obtain ⟨hx, hy⟩ := ne_notANumber_of_compare h
    rw [compare_eq_rank hx hy, Option.some.injEq] at h
    rw [← h] at hle
    exact ⟨hx, hy, compare_le_iff_le.mp (Ordering.ne_gt_iff_isLE.mpr hle)⟩
  · rintro ⟨hx, hy, h⟩
    exact ⟨_, compare_eq_rank hx hy, Ordering.ne_gt_iff_isLE.mp (compare_le_iff_le.mpr h)⟩

/-- Comparisons can be chained. -/
theorem float_lt_trans {x y z : Float} (hxy : x < y) (hyz : y < z) : x < z := by
  obtain ⟨hx, -, hxy⟩ := float_lt_iff.mp hxy
  obtain ⟨-, hz, hyz⟩ := float_lt_iff.mp hyz
  exact float_lt_iff.mpr ⟨hx, hz, hxy.trans hyz⟩

theorem float_lt_of_lt_of_le {x y z : Float} (hxy : x < y) (hyz : y ≤ z) : x < z := by
  obtain ⟨hx, -, hxy⟩ := float_lt_iff.mp hxy
  obtain ⟨-, hz, hyz⟩ := float_le_iff.mp hyz
  exact float_lt_iff.mpr ⟨hx, hz, hxy.trans_le hyz⟩

end SecretScan.Decimal
