import SecretScan.Proofs.Pattern.Passes

/-!
# What conversion leaves alone

A rule's author writes a pattern, and the matcher runs its native form. Conversion must not change
what the author protected from it: text in classes and escapes stays as it is. And it must not
repair or break the groups of a pattern, or the balance check would judge another pattern than the
one that was written. Every pass keeps the shape, so the whole conversion does, for malformed
patterns too: both facts are read off the shape.
-/

namespace SecretScan.Pattern

/-- **Conversion keeps the shape of a pattern.** -/
theorem convertUncommented_sameShape (pattern : Text) :
    SameShape (marks .outside (convertUncommented pattern).pattern [])
      (marks .outside pattern []) := by
  have hnamed := shortenNamedGroups_sameShape pattern
  have hheader := extractHeader_sameShape (shortenNamedGroups pattern)
  rw [convertUncommented]
  generalize extractHeader (shortenNamedGroups pattern) = header at hheader
  have hscoped := promoteScopedFlags_sameShape header.pattern header.flags
  generalize promoteScopedFlags header.pattern header.flags = promoted at hscoped
  have hinline := extractInlineFlags_sameShape promoted.1 promoted.2
  have hflags := ((hinline.trans hscoped).trans hheader).trans hnamed
  dsimp only
  -- blanks go in free-spacing mode only
  split
  · exact (stripFreeSpace_sameShape _).trans hflags
  · exact hflags

/-! ## Protected text -/

/-- The tokens of a pattern that are not syntax, offsets aside: escape pairs and classes. -/
def protectedTokens (pattern : Text) : List (Char × TokenKind) :=
  ((tokens pattern).filter (·.kind ≠ .char)).map fun t => (t.char, t.kind)

theorem protectedTokens_eq (pattern : Text) :
    protectedTokens pattern = (marks .outside pattern []).filter (·.2 ≠ .char) := by
  rw [← tokens_mark, List.filter_map]
  rfl

/--
**Conversion never touches escaped text or classes.**

Every escape pair and every class comes out of all passes as it went in, in order, and none is
created: not by what a pass removes, and not by what it writes.
-/
theorem convertUncommented_protectedTokens (pattern : Text) :
    protectedTokens (convertUncommented pattern).pattern = protectedTokens pattern := by
  rw [protectedTokens_eq, protectedTokens_eq]
  exact (convertUncommented_sameShape pattern).fixed

/-! ## Balance -/

namespace Balance

/-- Two checks that come to one verdict. Only the positions may differ. -/
structure Agrees (b b' : Balance) : Prop where
  /-- Both pass or both fail. -/
  isValid : b.isValid = b'.isValid
  /-- As many groups stay open. -/
  depth : b.depth = b'.depth
  /-- Both or neither met a `)` that closes no group. -/
  unmatchedClose : (∃ position, b = unmatchedClose position)
    ↔ ∃ position, b' = unmatchedClose position

theorem Finds.agrees {n : Option Nat} {b b' : Balance} (h : Finds n b) (h' : Finds n b') :
    b.Agrees b' := by
  match n with
  | none =>
    obtain ⟨i, rfl⟩ := h
    obtain ⟨j, rfl⟩ := h'
    exact ⟨rfl, rfl, fun _ => ⟨j, rfl⟩, fun _ => ⟨i, rfl⟩⟩
  | some 0 =>
    obtain rfl : b = balanced := h
    obtain rfl : b' = balanced := h'
    exact ⟨rfl, rfl, Iff.rfl⟩
  | some (depth + 1) =>
    obtain ⟨i, rfl⟩ := h
    obtain ⟨j, rfl⟩ := h'
    exact ⟨rfl, rfl, nofun, nofun⟩

end Balance

theorem SameShape.balance_agrees {s t : Text}
    (h : SameShape (marks .outside s []) (marks .outside t [])) :
    (balance s).Agrees (balance t) := by
  have hs := balance_nesting s
  rw [h.nesting 0] at hs
  exact hs.agrees (balance_nesting t)

/--
**Conversion neither breaks nor repairs the balance of a pattern.**

The check comes to the same verdict on what is written and on what the matcher gets, and no single
pass changes it either, on whatever pattern it runs.
-/
theorem convertUncommented_balance (pattern : Text) :
    (balance (convertUncommented pattern).pattern).Agrees (balance pattern)
      ∧ (balance (shortenNamedGroups pattern)).Agrees (balance pattern)
      ∧ (balance (extractHeader pattern).pattern).Agrees (balance pattern)
      ∧ (∀ flags, (balance (promoteScopedFlags pattern flags).1).Agrees (balance pattern))
      ∧ (∀ flags, (balance (extractInlineFlags pattern flags).pattern).Agrees (balance pattern))
      ∧ (balance (stripFreeSpace pattern)).Agrees (balance pattern) := by
  refine ⟨(convertUncommented_sameShape pattern).balance_agrees,
    (shortenNamedGroups_sameShape pattern).balance_agrees,
    (extractHeader_sameShape pattern).balance_agrees, fun flags => ?_, fun flags => ?_,
    (stripFreeSpace_sameShape pattern).balance_agrees⟩
  · exact (promoteScopedFlags_sameShape pattern flags).balance_agrees
  · exact (extractInlineFlags_sameShape pattern flags).balance_agrees

end SecretScan.Pattern
