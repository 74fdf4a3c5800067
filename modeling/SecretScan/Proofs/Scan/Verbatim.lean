import SecretScan.Proofs.Scan.Requirement
import SecretScan.Proofs.Text.Lower

/-!
# Terms that stand in a text as they are written

Terms are compared in lower case, and the lower case of a part of a text is a part of the lower case
of the text: except where a sigma at an edge of the part takes another form by itself. So a term
that occurs in a text in the very same letters hits it if the term has no capital sigma, and
otherwise at least wherever its first and its last sigma keep their form (`hits_of_verbatim`). In
the middle of a word they need not keep it, and then a text can pass with the term in it.
-/

namespace SecretScan.Requirements

open Text

variable {r : Requirements} {t term front back : Text}

theorem hits_of_verbatim (hne : term.trim ≠ []) (hturns : ¬ SigmaTurns front term.trim back) :
    Hits (front ++ (term.trim ++ back)) term := by
  refine ⟨lower_ne_nil hne, ?_⟩
  rw [← lowerIn_eq_lower_iff.mpr hturns]
  exact lowerIn_isInfix_lower front term.trim back

theorem ignored_of_hits (hkinds : ∀ kind, ¬ r.Lacks t kind) (hterm : term ∈ r.ignoreTerms)
    (hhits : Hits t term) : ∃ shown, r.check t = .ignored shown :=
  exists_ignored_iff.mpr ⟨hkinds, term, hterm, hhits⟩

theorem passed_or_ignored (hkinds : ∀ kind, ¬ r.Lacks t kind) :
    (∃ shown, r.check t = .ignored shown) ∨ r.check t = .passed := by
  by_cases hhits : ∃ term ∈ r.ignoreTerms, Hits t term
  · exact .inl (exists_ignored_iff.mpr ⟨hkinds, hhits⟩)
  · exact .inr (check_eq_passed_iff.mpr ⟨hkinds, fun term hterm h => hhits ⟨term, hterm, h⟩⟩)

/--
**A term that stands in a text as it is written.**

Let a text lack no kind and hold the letters of a term, its blanks left out. If there is no capital
sigma among them, the text is ignored. Otherwise, wherever these letters stand, either the text is
ignored, or it passes and a sigma at an edge of the term has another form there than in the term by
itself: the term begins or ends in the middle of a word of the text.
-/
theorem check_verbatim (hkinds : ∀ kind, ¬ r.Lacks t kind) (hterm : term ∈ r.ignoreTerms)
    (hne : term.trim ≠ []) (hverbatim : term.trim <:+: t) :
    ('Σ' ∉ term.trim → ∃ shown, r.check t = .ignored shown)
      ∧ ∀ front back, t = front ++ (term.trim ++ back) →
        (∃ shown, r.check t = .ignored shown)
          ∨ r.check t = .passed ∧ SigmaTurns front term.trim back := by
  have hplace : ∀ front back, t = front ++ (term.trim ++ back) →
      (∃ shown, r.check t = .ignored shown)
        ∨ r.check t = .passed ∧ SigmaTurns front term.trim back := by
    intro front back ht
    by_cases hturns : SigmaTurns front term.trim back
    · exact (passed_or_ignored hkinds).imp_right fun hpassed => ⟨hpassed, hturns⟩
    · have hhits : Hits t term := ht ▸ hits_of_verbatim hne hturns
      exact .inl (ignored_of_hits hkinds hterm hhits)
  refine ⟨fun hsigma => ?_, hplace⟩
  obtain ⟨front, back, ht⟩ := hverbatim
  rw [List.append_assoc] at ht
  exact (hplace front back ht.symm).resolve_right fun ⟨_, hturns⟩ => hsigma hturns.mem

/-- A term that ends a word, in a text in which it does so too. -/
theorem check_verbatim_word :
    let r : Requirements :=
      { free with minDigits := some 1, ignoreTerms := ["test".toList, " ΟΔΟΣ\n".toList] }
    let t : Text := "key-ΟΔΟΣ-7".toList
    let term : Text := " ΟΔΟΣ\n".toList
    (∀ kind, ¬ r.Lacks t kind) ∧ term ∈ r.ignoreTerms ∧ term.trim ≠ [] ∧ term.trim <:+: t
      ∧ ∃ shown, r.check t = .ignored shown := by
  intro r t term
  have hkinds : ∀ kind, ¬ r.Lacks t kind := by
    intro kind
    exact shortage?_eq_none_iff.mp (by cases kind <;> decide +kernel)
  have hterm : term ∈ r.ignoreTerms := by decide
  have hne : term.trim ≠ [] := by decide
  have hverbatim : term.trim <:+: t := ⟨"key-".toList, "-7".toList, by decide⟩
  have hkeeps : ¬ SigmaTurns "key-".toList term.trim "-7".toList :=
    lowerIn_eq_lower_iff.mp (by decide +kernel)
  have hchecked := (check_verbatim hkinds hterm hne hverbatim).2 "key-".toList "-7".toList (by decide)
  exact ⟨hkinds, hterm, hne, hverbatim, hchecked.resolve_right fun h => hkeeps h.2⟩

/-- The same letters in the middle of a word: the sigma has another form there, and the text
passes. -/
theorem check_verbatim_inside :
    let r : Requirements := { free with ignoreTerms := ["ΑΣ".toList] }
    let t : Text := "ΑΣΑ".toList
    let term : Text := "ΑΣ".toList
    (∀ kind, ¬ r.Lacks t kind) ∧ term ∈ r.ignoreTerms ∧ term.trim ≠ [] ∧ term.trim <:+: t
      ∧ r.check t = .passed ∧ ¬ ∃ shown, r.check t = .ignored shown := by
  intro r t term
  have hpassed : r.check t = .passed := by decide +kernel
  have hkinds : ∀ kind, ¬ r.Lacks t kind := (check_eq_passed_iff.mp hpassed).1
  refine ⟨hkinds, by decide, by decide, ⟨[], "Α".toList, by decide⟩, hpassed, ?_⟩
  rintro ⟨shown, hignored⟩
  exact nomatch hpassed.symm.trans hignored

end SecretScan.Requirements
