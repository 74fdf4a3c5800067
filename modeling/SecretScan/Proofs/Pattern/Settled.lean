import Mathlib.Logic.Function.Iterate
import SecretScan.Proofs.Pattern.TrailingComment

/-!
# Patterns that conversion leaves alone

A pass that removes text may bring the text around it together, and what then stands side by side
may be one of the forms that conversion looks for. Nobody looks again, so a converted pattern may
still change when it is converted once more. `Settled` says when it does not: none of the forms
stands anywhere in it as syntax.

Every pass only ever takes characters out. So conversion changes nothing if and only if no pass does
(`convert_eq_self_iff`), and what is converted again and again gets shorter until it is settled
(`exists_settled`).
-/

namespace SecretScan.Pattern

/-! ## Places of syntax -/

/-- `SyntaxAt p r`: `r` is what is left of `p` from a character on that is syntax. -/
def SyntaxAt (p r : Text) : Prop :=
  ∃ t ∈ tokens p, t.kind = .char ∧ r = p.drop t.index

theorem syntaxAt_iff {p r : Text} : SyntaxAt p r ↔
    ∃ a c b, p = a ++ c :: b ∧ r = c :: b ∧ Mode.outside.behind a (c :: b) = .outside
      ∧ IsPlain c := by
  constructor
  · rintro ⟨t, ht, hkind, rfl⟩
    obtain ⟨a, c, b, rfl, rfl⟩ := mem_tokens_iff.mp ht
    obtain ⟨hm, hc⟩ := Mode.read_eq_char_iff.mp hkind
    exact ⟨a, c, b, rfl, List.drop_left, hm, hc⟩
  · rintro ⟨a, c, b, rfl, rfl, hm, hc⟩
    refine ⟨_, mem_tokens_iff.mpr ⟨a, c, b, rfl, rfl⟩, ?_, List.drop_left.symm⟩
    exact Mode.read_eq_char_iff.mpr ⟨hm, hc⟩

theorem not_syntaxAt_nil {r : Text} : ¬ SyntaxAt [] r := by
  rintro ⟨t, ht, -⟩
  cases ht

theorem syntaxAt_cons {c : Char} {s r : Text} (hc : IsPlain c) :
    SyntaxAt (c :: s) r ↔ r = c :: s ∨ SyntaxAt s r := by
  rw [syntaxAt_iff, syntaxAt_iff]
  constructor
  · rintro ⟨a, d, b, hs, hr, hm, hd⟩
    cases a with
    | nil => exact .inl (hr.trans hs.symm)
    | cons e a =>
        obtain ⟨rfl, rfl⟩ := List.cons.inj hs
        rw [Mode.behind, Mode.read_plain hc] at hm
        exact .inr ⟨a, d, b, rfl, hr, hm, hd⟩
  · rintro (rfl | ⟨a, d, b, rfl, hr, hm, hd⟩)
    · exact ⟨[], c, s, rfl, rfl, rfl, hc⟩
    · refine ⟨c :: a, d, b, rfl, hr, ?_, hd⟩
      rw [Mode.behind, Mode.read_plain hc]
      exact hm

theorem syntaxAt_sealed {p s r : Text} (hp : Sealed p) : SyntaxAt (p ++ s) r ↔ SyntaxAt s r := by
  rw [syntaxAt_iff, syntaxAt_iff]
  obtain ⟨hbehind, hmarks⟩ := hp.behind_ahead s
  constructor
  · rintro ⟨a, c, b, hs, hr, hm, hc⟩
    rcases List.append_eq_append_iff.mp hs with ⟨a', rfl, rfl⟩ | ⟨a', rfl, hs'⟩
    · rw [Mode.behind_append, hbehind] at hm
      exact ⟨a', c, b, rfl, hr, hm, hc⟩
    · cases a' with
      | nil => exact ⟨[], c, b, hs'.symm, hr, rfl, hc⟩
      | cons d a' =>
          obtain ⟨rfl, rfl⟩ := List.cons.inj hs'
          have hcovered := hp.covered
          rw [← hmarks] at hcovered
          exact absurd hc (not_plain_of_covered hcovered rfl hm)
  · rintro ⟨a, c, b, rfl, hr, hm, hc⟩
    refine ⟨p ++ a, c, b, (List.append_assoc ..).symm, hr, ?_, hc⟩
    rw [Mode.behind_append, hbehind, hm]

theorem not_syntaxAt_hanging {p r : Text} (hp : Covered (marks .outside p [])) :
    ¬ SyntaxAt p r := by
  rw [syntaxAt_iff]
  rintro ⟨a, c, b, ht, -, hm, hc⟩
  rw [← List.append_nil (c :: b)] at hm
  exact not_plain_of_covered hp ht hm hc

/-! ## Rewritings that shorten -/

/-- Every span is replaced by a part of it. -/
def Shortens {α : Type} (f : Text → Option (Span α)) : Prop :=
  ∀ s span, f s = some span → ∃ old rest, s = old ++ rest ∧ span.length = old.length
    ∧ span.out.Sublist old ∧ span.out.length < old.length

section

variable {α : Type} {f : Text → Option (Span α)} {s t : Text} {notes : List α}

theorem Rewrites.sublist (hf : Shortens f) (h : Rewrites f s t notes) : t.Sublist s := by
  induction h with
  | nil => exact .slnil
  | keep _ _ _ ih => exact ih.cons_cons _
  | span _ hspan _ ih =>
      obtain ⟨old, rest, hs, hlen, hout, -⟩ := hf _ _ hspan
      rw [hs, hlen, List.drop_left] at ih
      rw [hs]
      exact hout.append ih
  | sealed _ _ ih => exact ih.append_left _
  | hanging _ => exact .refl _

/-- **A rewriting that shortens changes nothing if and only if there is no span to replace.** -/
theorem Rewrites.eq_iff (hf : Shortens f) (h : Rewrites f s t notes) :
    (t = s ↔ ∀ r, SyntaxAt s r → f r = none) ∧ (t = s → notes = []) := by
  induction h with
  | nil => exact ⟨⟨fun _ r hr => absurd hr not_syntaxAt_nil, fun _ => rfl⟩, fun _ => rfl⟩
  | @keep c s t notes hc hnone _ ih =>
      refine ⟨?_, fun heq => ih.2 (List.cons.inj heq).2⟩
      rw [List.cons_inj_right, ih.1]
      constructor
      · intro hall r hr
        rcases (syntaxAt_cons hc).mp hr with rfl | hr
        · exact hnone
        · exact hall r hr
      · exact fun hall r hr => hall r ((syntaxAt_cons hc).mpr (.inr hr))
  | @span c s t notes span hc hspan hrest ih =>
      obtain ⟨old, rest, hs, hlen, hout, hlt⟩ := hf _ _ hspan
      have hle := (hrest.sublist hf).length_le
      -- the span gets shorter, and nothing behind it gets longer
      have hshort : ¬ span.out ++ t = c :: s := by
        intro heq
        have hcount := congrArg List.length heq
        rw [hs, hlen, List.drop_left] at hle
        rw [hs, List.length_append, List.length_append] at hcount
        omega
      refine ⟨⟨fun heq => absurd heq hshort, fun hall => ?_⟩, fun heq => absurd heq hshort⟩
      have hnone := hall (c :: s) ((syntaxAt_cons hc).mpr (.inl rfl))
      rw [hspan] at hnone
      cases hnone
  | @sealed p s t notes hp _ ih =>
      refine ⟨?_, fun heq => ih.2 (List.append_cancel_left heq)⟩
      rw [List.append_cancel_left_eq, ih.1]
      exact forall_congr' fun r => by rw [syntaxAt_sealed hp]
  | hanging hp =>
      exact ⟨⟨fun _ r hr => absurd hr (not_syntaxAt_hanging hp), fun _ => rfl⟩, fun _ => rfl⟩

end

/-! ## The passes -/

theorem namedSpan_shortens : Shortens namedSpan := by
  intro s span h
  obtain ⟨name, hname, rfl⟩ := Option.map_eq_some_iff.mp h
  obtain ⟨-, rest, rfl⟩ := eq_of_namedOpener? hname
  refine ⟨['(', '?', 'P', '<'] ++ name ++ ['>'], rest, by simp, by simp, ?_, by simp⟩
  exact (List.Sublist.append_right (by decide) name).append_right ['>']

theorem flagSpan_shortens : Shortens flagSpan := by
  intro s span h
  obtain ⟨⟨letters, n⟩, hmarker, rfl⟩ := Option.map_eq_some_iff.mp h
  obtain ⟨-, -, rfl, rest, rfl⟩ := eq_of_flagMarker? hmarker
  exact ⟨['(', '?'] ++ letters ++ [')'], rest, by simp, by simp, List.nil_sublist _, by simp⟩

theorem scopedSpan_shortens : Shortens scopedSpan := by
  intro s span h
  obtain ⟨opener, hopener, rfl⟩ := eq_of_scopedSpan h
  obtain ⟨-, -, off, rest, -, rfl, hlen⟩ := eq_of_scopedOpener? hopener
  refine ⟨'(' :: ('?' :: (opener.on ++ off ++ [':'])), rest, by simp, ?_, ?_, by simp⟩
  · simp only [List.length_cons, List.length_append, List.length_nil]
    omega
  · exact (List.nil_sublist _).cons_cons '('

/-- What is left of a pattern when one pass has gone over it is a part of it. -/
theorem shortenNamedGroups_sublist (p : Text) : (shortenNamedGroups p).Sublist p :=
  (edit_rewrites namedGroupEdit_follows p).sublist namedSpan_shortens

theorem promoteScopedFlags_sublist (p : Text) (flags : FlagSet) :
    (promoteScopedFlags p flags).1.Sublist p :=
  (edit_rewrites scopedFlagsEdit_follows p).sublist scopedSpan_shortens

theorem extractInlineFlags_sublist (p : Text) (flags : FlagSet) :
    (extractInlineFlags p flags).pattern.Sublist p :=
  (edit_rewrites flagMarkerEdit_follows p).sublist flagSpan_shortens

theorem extractHeader_sublist (p : Text) : (extractHeader p).pattern.Sublist p := by
  rw [extractHeader]
  split
  · exact List.drop_sublist _ p
  · exact .refl p

theorem stripFreeSpace_sublist (p : Text) : (stripFreeSpace p).Sublist p := by
  have hall : (tokens p).map Token.char = p := by
    rw [tokens_eq, tokensFrom_map_char]
  have hpart := (List.filter_sublist (l := tokens p)
    (p := fun t => !(t.kind = .char && isFreeSpace t.char))).map Token.char
  rw [hall] at hpart
  exact hpart

theorem shortenNamedGroups_eq_self_iff {p : Text} :
    shortenNamedGroups p = p ↔ ∀ r, SyntaxAt p r → namedOpener? r = none := by
  refine ((edit_rewrites namedGroupEdit_follows p).eq_iff namedSpan_shortens).1.trans ?_
  simp only [namedSpan, Option.map_eq_none_iff]

theorem extractInlineFlags_eq_self_iff {p : Text} {flags : FlagSet} :
    (extractInlineFlags p flags).pattern = p ↔ ∀ r, SyntaxAt p r → flagMarker? r = none := by
  refine ((edit_rewrites flagMarkerEdit_follows p).eq_iff flagSpan_shortens).1.trans ?_
  simp only [flagSpan, Option.map_eq_none_iff]

theorem promoteScopedFlags_eq_self_iff {p : Text} {flags : FlagSet} :
    (promoteScopedFlags p flags).1 = p ↔ ∀ r, SyntaxAt p r → scopedSpan r = none :=
  ((edit_rewrites scopedFlagsEdit_follows p).eq_iff scopedSpan_shortens).1

/-! ## Comments -/

/-- What a comment hides is missing, so none begins where everything is kept. -/
theorem CommentForm.begins_of_kept {k : CommentForm} {start : Bool} {c : Char} {s : Text}
    (h : k.kept (.reading .outside start) (c :: s) [] = c :: s) :
    k.begins start (c :: s) = false := by
  rw [Bool.eq_false_iff]
  intro hbegins
  rw [(begins_cons (by simpa using hbegins)).1] at h
  have hlen := (k.kept_sublist .skipping s []).length_le
  rw [h, List.length_cons] at hlen
  omega

/-- Where all of a text is kept, no comment group begins in it. -/
theorem commentGroup_begins_of_kept {m : Mode} {start : Bool} {s : Text}
    (h : commentGroup.kept (.reading m start) s [] = s) {a b : Text} {c : Char}
    (hs : s = a ++ c :: b) (hm : m.behind a (c :: b) = .outside) :
    commentGroup.begins true (c :: b) = false := by
  induction a generalizing m start s with
  | nil =>
      subst hs
      obtain rfl : m = .outside := hm
      exact CommentForm.begins_of_kept h
  | cons d a ih =>
      subst hs
      have hnone : m = .outside → commentGroup.begins start (d :: (a ++ c :: b ++ [])) = false := by
        rintro rfl
        rw [List.append_nil]
        exact CommentForm.begins_of_kept h
      rw [List.cons_append, (CommentForm.reads_cons hnone).1, List.append_nil] at h
      exact ih (List.cons.inj h).2 rfl hm

/-- Comment groups stay if none is closed. -/
theorem stripCommentGroups_eq_self_iff {p : Text} : stripCommentGroups p = p ↔
    ∀ r, SyntaxAt p r → commentGroup.begins true r = false := by
  rw [stripCommentGroups_eq]
  constructor
  · intro h r hr
    obtain ⟨a, c, b, hp, rfl, hm, -⟩ := syntaxAt_iff.mp hr
    exact commentGroup_begins_of_kept h hp hm
  · intro h
    refine (CommentForm.reading_of_plain fun a c b start hp hm => ?_).1
    rw [List.append_nil] at hm ⊢
    by_cases hc : IsPlain c
    · exact h _ (syntaxAt_iff.mpr ⟨a, c, b, hp, rfl, hm, hc⟩)
    · have hopen : ¬ '(' = c := by
        rintro rfl
        exact hc (by decide)
      simp [commentGroup, List.isPrefixOf, hopen]

theorem stripTrailingComment_isPrefix (line : Text) : stripTrailingComment line <+: line := by
  obtain ⟨gone, hline, -⟩ := exists_removed line
  exact ⟨gone, hline.symm⟩

theorem stripTrailingComment_eq_self_iff {line : Text} :
    stripTrailingComment line = line ↔ ∀ a, ¬ TrailingAt .outside line a := by
  rcases stripTrailingComment_cases line with ⟨a, htrail, hcut⟩ | ⟨hnone, hcut⟩
  · refine ⟨fun heq => ?_, fun h => absurd htrail (h a)⟩
    obtain ⟨d, b, hline, -⟩ := htrail
    have hlen := congrArg List.length (heq.symm.trans hcut)
    rw [hline, List.length_append, List.length_cons] at hlen
    omega
  · exact ⟨fun _ => hnone, fun _ => hcut⟩

theorem stripCommentGroups_sublist (p : Text) : (stripCommentGroups p).Sublist p := by
  rw [stripCommentGroups_eq]
  exact commentGroup.kept_sublist _ p []

theorem stripComments_sublist_groups (p : Text) (extended : Bool) :
    (stripComments p extended).Sublist (stripCommentGroups p) := by
  rw [stripComments]
  generalize stripCommentGroups p = p
  cases extended with
  | true =>
      rw [if_pos rfl, stripLineComments_eq]
      exact lineComment.kept_sublist _ p []
  | false =>
      have hlines := Text.join_sublist stripTrailingComment_isPrefix (Text.splitOn '\n' p)
      rw [Text.join_splitOn] at hlines
      exact hlines

theorem stripComments_sublist (p : Text) (extended : Bool) :
    (stripComments p extended).Sublist p :=
  (stripComments_sublist_groups p extended).trans (stripCommentGroups_sublist p)

theorem stripComments_eq_self_iff {p : Text} : stripComments p false = p ↔
    (∀ r, SyntaxAt p r → commentGroup.begins true r = false)
      ∧ ∀ line ∈ Text.splitOn '\n' p, ∀ a, ¬ TrailingAt .outside line a := by
  have hlines := Text.join_eq_iff stripTrailingComment_isPrefix (Text.splitOn_ne_nil '\n' p)
  rw [Text.join_splitOn] at hlines
  have htrailing : (∀ line ∈ Text.splitOn '\n' p, stripTrailingComment line = line)
      ↔ ∀ line ∈ Text.splitOn '\n' p, ∀ a, ¬ TrailingAt .outside line a :=
    forall₂_congr fun _ _ => stripTrailingComment_eq_self_iff
  rw [← stripCommentGroups_eq_self_iff, ← htrailing, ← hlines]
  constructor
  · intro h
    have hpart := stripComments_sublist_groups p false
    rw [h] at hpart
    have hgroups := (stripCommentGroups_sublist p).eq_of_length_le hpart.length_le
    rw [stripComments, hgroups] at h
    exact ⟨hgroups, h⟩
  · rintro ⟨hgroups, hjoin⟩
    rw [stripComments, hgroups]
    exact hjoin

/-! ## Settled patterns -/

/-- Nothing that conversion looks for stands in the pattern as syntax. -/
structure Settled (p : Text) : Prop where
  /-- No comment group that is closed. -/
  noGroup : ∀ r, SyntaxAt p r → ['(', '?', '#'] <+: r → ')' ∉ r
  /-- No comment at the end of a line. -/
  noTrailing : ∀ line ∈ Text.splitOn '\n' p, ∀ a, ¬ TrailingAt .outside line a
  /-- No opener `(?P<name>`. -/
  noNamed : ∀ r, SyntaxAt p r → namedOpener? r = none
  /-- No flag marker. -/
  noMarker : ∀ r, SyntaxAt p r → flagMarker? r = none
  /-- No group with scoped flags that is closed. -/
  noScoped : ∀ r opener, SyntaxAt p r → scopedOpener? r = some opener →
    opener.on ≠ [] ∨ opener.off ≠ [] → groupEnd? r 0 = none

theorem flagMarker?_of_noMarker {p : Text} (h : ∀ r, SyntaxAt p r → flagMarker? r = none) :
    flagMarker? p = none := by
  cases hmarker : flagMarker? p with
  | none => rfl
  | some marker =>
      obtain ⟨-, -, -, rest, hp⟩ := eq_of_flagMarker? hmarker
      have hfront : SyntaxAt p p := syntaxAt_iff.mpr ⟨[], '(', _, hp, hp, rfl, by decide⟩
      exact hmarker.symm.trans (h p hfront)

theorem scopedSpan_eq_none_iff {r : Text} : scopedSpan r = none ↔
    ∀ opener, scopedOpener? r = some opener → opener.on ≠ [] ∨ opener.off ≠ [] →
      groupEnd? r 0 = none := by
  rw [scopedSpan]
  cases scopedOpener? r with
  | none => simp
  | some opener => simp [or_iff_not_imp_left]

/-- Each pass behind the comments passes on a part of what it gets. -/
theorem convertUncommented_sublists (p : Text) :
    ∃ header : Extracted, header = extractHeader (shortenNamedGroups p) ∧
      header.pattern.Sublist (shortenNamedGroups p) ∧
    ∃ promoted, promoted = promoteScopedFlags header.pattern header.flags ∧
      promoted.1.Sublist header.pattern ∧
    ∃ inline : Extracted, inline = extractInlineFlags promoted.1 promoted.2 ∧
      inline.pattern.Sublist promoted.1 ∧
      (convertUncommented p).pattern.Sublist inline.pattern := by
  refine ⟨_, rfl, extractHeader_sublist _, _, rfl, promoteScopedFlags_sublist _ _, _, rfl,
    extractInlineFlags_sublist _ _, ?_⟩
  rw [convertUncommented]
  dsimp only
  split
  · exact stripFreeSpace_sublist _
  · exact .refl _

theorem convertUncommented_sublist (p : Text) : (convertUncommented p).pattern.Sublist p := by
  obtain ⟨header, -, hheader, promoted, -, hpromoted, inline, -, hinline, hlast⟩ :=
    convertUncommented_sublists p
  exact (((hlast.trans hinline).trans hpromoted).trans hheader).trans (shortenNamedGroups_sublist p)

/-- Without any of the forms no pass has anything to do, and nobody asks for a flag. -/
theorem convertUncommented_of_free {p : Text} (hnamed : ∀ r, SyntaxAt p r → namedOpener? r = none)
    (hmarker : ∀ r, SyntaxAt p r → flagMarker? r = none)
    (hscoped : ∀ r, SyntaxAt p r → scopedSpan r = none) :
    convertUncommented p = ⟨p, ['g'], false⟩ := by
  have hheader : extractHeader p = ⟨p, [], false⟩ := by
    rw [extractHeader, flagMarker?_of_noMarker hmarker]
  have hpromoted : promoteScopedFlags p [] = (p, []) := by
    have hpattern : (edit scopedFlagsEdit p).1 = p :=
      (@promoteScopedFlags_eq_self_iff p []).mpr hscoped
    have hnotes := ((edit_rewrites scopedFlagsEdit_follows p).eq_iff scopedSpan_shortens).2 hpattern
    rw [promoteScopedFlags]
    dsimp only
    rw [hpattern, hnotes]
    rfl
  have hinline : extractInlineFlags p [] = ⟨p, [], false⟩ := by
    have hpattern : (edit flagMarkerEdit p).1 = p :=
      (@extractInlineFlags_eq_self_iff p []).mpr hmarker
    have hnotes := ((edit_rewrites flagMarkerEdit_follows p).eq_iff flagSpan_shortens).2 hpattern
    rw [extractInlineFlags]
    dsimp only
    rw [hpattern, hnotes]
    rfl
  rw [convertUncommented, shortenNamedGroups_eq_self_iff.mpr hnamed, hheader]
  dsimp only
  rw [hpromoted]
  dsimp only
  rw [hinline]
  rfl

theorem convertUncommented_eq_self_iff {p : Text} : (convertUncommented p).pattern = p ↔
    (∀ r, SyntaxAt p r → namedOpener? r = none) ∧ (∀ r, SyntaxAt p r → flagMarker? r = none)
      ∧ ∀ r, SyntaxAt p r → scopedSpan r = none := by
  constructor
  · intro heq
    obtain ⟨header, -, hheader, promoted, hpromote, hpromoted, inline, hextract, hinline, hlast⟩ :=
      convertUncommented_sublists p
    -- whatever a pass takes away is missing in the end
    rw [heq] at hlast
    have hpromoted' := hlast.trans hinline
    have hheader' := hpromoted'.trans hpromoted
    have hnamed' := hheader'.trans hheader
    have e₁ : shortenNamedGroups p = p :=
      (shortenNamedGroups_sublist p).eq_of_length_le hnamed'.length_le
    rw [e₁] at hheader hnamed'
    have e₂ : header.pattern = p := hheader.eq_of_length_le hheader'.length_le
    rw [e₂] at hpromoted hpromote
    have e₃ : promoted.1 = p := hpromoted.eq_of_length_le hpromoted'.length_le
    rw [e₃] at hinline hextract
    have e₄ : inline.pattern = p := hinline.eq_of_length_le hlast.length_le
    rw [hpromote] at e₃
    rw [hextract] at e₄
    exact ⟨shortenNamedGroups_eq_self_iff.mp e₁, extractInlineFlags_eq_self_iff.mp e₄,
      promoteScopedFlags_eq_self_iff.mp e₃⟩
  · rintro ⟨hnamed, hmarker, hscoped⟩
    rw [convertUncommented_of_free hnamed hmarker hscoped]

theorem commentGroup_begins_eq_false_iff {r : Text} {start : Bool} :
    commentGroup.begins start r = false ↔ (['(', '?', '#'] <+: r → ')' ∉ r) := by
  show (_ && _) = false ↔ _
  rw [Bool.and_eq_false_imp, List.isPrefixOf_iff_prefix]
  simp

/-- A settled pattern comes back as it is, with the one flag that every pattern has. -/
theorem Settled.convert_eq {p : Text} (h : Settled p) : convert p = ⟨p, ['g'], false⟩ := by
  have hextended : hasExtendedFlag p = false := by
    rw [hasExtendedFlag, flagMarker?_of_noMarker h.noMarker]
    rfl
  have hcomments : stripComments p false = p := stripComments_eq_self_iff.mpr
    ⟨fun r hr => commentGroup_begins_eq_false_iff.mpr (h.noGroup r hr), h.noTrailing⟩
  rw [convert, hextended, hcomments]
  exact convertUncommented_of_free h.noNamed h.noMarker
    fun r hr => scopedSpan_eq_none_iff.mpr fun opener => h.noScoped r opener hr

/-- **Conversion leaves exactly the settled patterns alone.** -/
theorem convert_eq_self_iff {p : Text} : (convert p).pattern = p ↔ Settled p := by
  constructor
  · intro heq
    have hstripped := stripComments_sublist p (hasExtendedFlag p)
    have hconverted := convertUncommented_sublist (stripComments p (hasExtendedFlag p))
    rw [show (convertUncommented _).pattern = p from heq] at hconverted
    have hcomments := hstripped.eq_of_length_le hconverted.length_le
    rw [convert, hcomments] at heq
    obtain ⟨hnamed, hmarker, hscoped⟩ := convertUncommented_eq_self_iff.mp heq
    -- without a header the pattern is not in free-spacing mode
    have hextended : hasExtendedFlag p = false := by
      rw [hasExtendedFlag, flagMarker?_of_noMarker hmarker]
      rfl
    rw [hextended] at hcomments
    obtain ⟨hgroup, htrailing⟩ := stripComments_eq_self_iff.mp hcomments
    exact ⟨fun r hr => commentGroup_begins_eq_false_iff.mp (hgroup r hr), htrailing, hnamed,
      hmarker, fun r opener hr => scopedSpan_eq_none_iff.mp (hscoped r hr) opener⟩
  · intro h
    rw [h.convert_eq]

/-- Conversion only takes characters out. -/
theorem convert_sublist (p : Text) : (convert p).pattern.Sublist p :=
  (convertUncommented_sublist _).trans (stripComments_sublist p _)

/-- A pattern that is not settled gets shorter. -/
theorem convert_shortens {p : Text} (h : ¬ Settled p) : (convert p).pattern.length < p.length := by
  refine lt_of_le_of_ne (convert_sublist p).length_le fun hlen => h ?_
  exact convert_eq_self_iff.mp ((convert_sublist p).eq_of_length hlen)

/-! ## Converting again -/

/-- The pattern converted `n` times. -/
def convertTimes (n : Nat) (p : Text) : Text :=
  (fun q => (convert q).pattern)^[n] p

/-- Converted often enough, every pattern is settled. -/
theorem exists_settled (p : Text) : ∃ n ≤ p.length, Settled (convertTimes n p) := by
  -- the length goes down until the pattern is settled
  induction hlen : p.length using Nat.strongRecOn generalizing p with
  | ind len ih =>
    by_cases h : Settled p
    · exact ⟨0, Nat.zero_le _, h⟩
    have hshorter := convert_shortens h
    rw [hlen] at hshorter
    obtain ⟨n, hn, hsettled⟩ := ih _ hshorter (convert p).pattern rfl
    exact ⟨n + 1, by omega, hsettled⟩

/--
**Converting a converted pattern.**

It changes nothing exactly if the converted pattern is settled; otherwise the pattern gets shorter.
Converting again and again comes to rest, after no more rounds than the pattern has characters.
-/
theorem convert_twice (p : Text) :
    ((convert (convert p).pattern).pattern = (convert p).pattern ↔ Settled (convert p).pattern)
      ∧ (convert (convert p).pattern).pattern.Sublist (convert p).pattern
      ∧ ∃ n ≤ p.length, Settled (convertTimes n p)
        ∧ ∀ k, convertTimes (n + k) p = convertTimes n p := by
  refine ⟨convert_eq_self_iff, convert_sublist _, ?_⟩
  obtain ⟨n, hn, hsettled⟩ := exists_settled p
  refine ⟨n, hn, hsettled, fun k => ?_⟩
  rw [convertTimes, Nat.add_comm, Function.iterate_add_apply]
  exact Function.iterate_fixed (convert_eq_self_iff.mpr hsettled) k

/--
**A converted pattern may change when it is converted again.**

The comment that goes leaves another one at the end of the line, and the marker that goes leaves the
halves of another one side by side.
-/
theorem convert_twice_changes :
    ((convert "a #b #c".toList).pattern = "a #b".toList
        ∧ (convert "a #b".toList).pattern = "a".toList)
      ∧ (convert "(?(?i)i)".toList).pattern = "(?i)".toList
        ∧ (convert "(?i)".toList).pattern = [] := by
  decide +kernel

end SecretScan.Pattern
