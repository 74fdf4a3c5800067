import SecretScan.Text.Basic

/-!
# ASCII characters

Letters and digits as the core library knows them are ASCII characters, and of these there are few
enough to look at each. A law about such characters is checked one by one (`forall_ascii`).
-/

namespace SecretScan.Text

theorem toNat_lt_of_isAlphanum {c : Char} (h : c.isAlphanum = true) : c.toNat < 128 := by
  have hranges : (decide (c.val ≥ 'A'.val ∧ c.val ≤ 'Z'.val)
      || (decide (c.val ≥ 'a'.val) && decide (c.val ≤ 'z'.val))
      || (decide (c.val ≥ '0'.val) && decide (c.val ≤ '9'.val))) = true := h
  simp only [Bool.or_eq_true, Bool.and_eq_true, decide_eq_true_eq, ge_iff_le,
    UInt32.le_iff_toNat_le] at hranges
  simp at hranges
  omega

/-- What holds of every ASCII character, each looked at by itself. -/
theorem forall_ascii {P : Char → Prop} (h : ∀ n < 128, P (Char.ofNat n)) {c : Char}
    (hc : c.toNat < 128) : P c := by
  have hn := h c.toNat hc
  rw [Char.ofNat_toNat] at hn
  exact hn

end SecretScan.Text
