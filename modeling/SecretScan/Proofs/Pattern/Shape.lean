import SecretScan.Proofs.Pattern.Rewriting

/-!
# The shape of a pattern

Two texts have the same shape if what is not syntax is the same in both, in the same order, and if
they nest alike wherever they stand. Both halves compose (`SameShape.append`), so a pass that only
ever replaces plain text by plain text that nests alike keeps the shape of the whole pattern
(`Rewrites.sameShape`). The induction is on the rewriting and has one case for each kind of piece.
-/

namespace SecretScan.Pattern

/-- The same text in classes and escapes, and the same nesting. -/
structure SameShape (ks ls : List Mark) : Prop where
  /-- What is not syntax is the same. -/
  fixed : ks.filter (·.2 ≠ .char) = ls.filter (·.2 ≠ .char)
  /-- They nest alike, whatever is open before them. -/
  nesting : ∀ depth, nesting depth ks = nesting depth ls

namespace SameShape

variable {ks ls ms : List Mark}

theorem refl (ks : List Mark) : SameShape ks ks :=
  ⟨rfl, fun _ => rfl⟩

theorem symm (h : SameShape ks ls) : SameShape ls ks :=
  ⟨h.fixed.symm, fun depth => (h.nesting depth).symm⟩

theorem trans (h : SameShape ks ls) (h' : SameShape ls ms) : SameShape ks ms :=
  ⟨h.fixed.trans h'.fixed, fun depth => (h.nesting depth).trans (h'.nesting depth)⟩

theorem append {ks' ls' : List Mark} (h : SameShape ks ls) (h' : SameShape ks' ls') :
    SameShape (ks ++ ks') (ls ++ ls') := by
  refine ⟨?_, fun depth => ?_⟩
  · rw [List.filter_append, List.filter_append, h.fixed, h'.fixed]
  · rw [nesting_append, nesting_append, h.nesting depth]
    exact congrArg ((Pattern.nesting depth ls).bind ·) (funext h'.nesting)

end SameShape

/-- Syntax has no part that is not syntax. -/
theorem fixed_syntaxMarks (t : Text) : (syntaxMarks t).filter (·.2 ≠ .char) = [] := by
  simp [syntaxMarks]

/-! ## Neutral replacements -/

/-- `span.Replaces old`: what `span` writes may stand for `old`. -/
structure Span.Replaces {α : Type} (span : Span α) (old : Text) : Prop where
  /-- It stands for all of `old`. -/
  length : span.length = old.length
  /-- All of `old` is syntax wherever it stands outside any class and escape. -/
  plain_old : ∀ c ∈ old, IsPlain c
  /-- So is all that is written. -/
  plain_out : ∀ c ∈ span.out, IsPlain c
  /-- Both open and close the same groups. -/
  nesting : ∀ depth, nesting depth (syntaxMarks span.out) = nesting depth (syntaxMarks old)

/-- The opener of a group may stand for another one. -/
theorem Span.replaces_opener {α : Type} {old out : Text} (hold : ∀ c ∈ old, IsInert c)
    (hout : ∀ c ∈ out, IsInert c) {n : Nat} (hn : n = old.length + 1) (note : α) :
    Span.Replaces ⟨'(' :: out, n, note⟩ ('(' :: old) where
  length := hn
  plain_old := List.forall_mem_cons.mpr ⟨by decide, fun c hc => (hold c hc).1⟩
  plain_out := List.forall_mem_cons.mpr ⟨by decide, fun c hc => (hout c hc).1⟩
  nesting depth := (nesting_opener hout depth).trans (nesting_opener hold depth).symm

/-- Nothing may stand for a group without groups in it. -/
theorem Span.replaces_pair {α : Type} {old : Text} (hold : ∀ c ∈ old, IsInert c) {n : Nat}
    (hn : n = old.length + 2) (note : α) :
    Span.Replaces ⟨[], n, note⟩ ('(' :: (old ++ [')'])) where
  length := by simp [hn]
  plain_old := by
    have hclose : ∀ c ∈ old ++ [')'], IsPlain c :=
      List.forall_mem_append.mpr
        ⟨fun c hc => (hold c hc).1, List.forall_mem_singleton.mpr (by decide)⟩
    exact List.forall_mem_cons.mpr ⟨by decide, hclose⟩
  plain_out := by simp
  nesting depth := (nesting_pair hold depth).symm

/-- A choice of spans, each of which may stand for what it replaces. -/
def Neutral {α : Type} (f : Text → Option (Span α)) : Prop :=
  ∀ s span, f s = some span → ∃ old rest, s = old ++ rest ∧ span.Replaces old

variable {α : Type} {f : Text → Option (Span α)}

/-- A neutral replacement at the front keeps the shape if the shape of the rest is kept. -/
theorem Neutral.sameShape (hf : Neutral f) {s t : Text} {span : Span α} (h : f s = some span)
    (hrest : SameShape (marks .outside t []) (marks .outside (s.drop span.length) [])) :
    SameShape (marks .outside (span.out ++ t) []) (marks .outside s []) := by
  obtain ⟨old, rest, rfl, hspan⟩ := hf s span h
  rw [hspan.length, List.drop_left] at hrest
  rw [marks_append_plain hspan.plain_out, marks_append_plain hspan.plain_old]
  refine SameShape.append ⟨?_, hspan.nesting⟩ hrest
  exact (fixed_syntaxMarks span.out).trans (fixed_syntaxMarks old).symm

/-- **Neutral replacements keep the shape of a pattern.** -/
theorem Rewrites.sameShape (hf : Neutral f) {s t : Text} {notes : List α}
    (h : Rewrites f s t notes) : SameShape (marks .outside t []) (marks .outside s []) := by
  induction h with
  | nil => exact .refl _
  | keep hplain _ _ ih =>
      rw [marks_cons_plain hplain, marks_cons_plain hplain]
      exact SameShape.append (.refl [_]) ih
  | span _ hspan _ ih => exact hf.sameShape hspan ih
  | sealed hp _ ih =>
      rw [hp.marks_append, hp.marks_append]
      exact SameShape.append (.refl _) ih
  | hanging _ => exact .refl _

end SecretScan.Pattern
