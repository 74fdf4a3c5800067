import SecretScan.Proofs.Pattern.Shape

/-!
# The passes that bring a pattern into native form

Four passes are rewritings: named openers are shortened, scoped openers become plain ones, flag
markers go, and so do blanks in free-spacing mode. For each this module names the choice of spans,
shows that the pass is the rewriting it gives, and that the choice is neutral. The header is a flag
marker at the very front, so it is one neutral replacement.

Whether a scoped opener is changed depends on a look ahead to the end of its group. The look ahead
starts a fresh walk behind the opener, so it too depends on what is left of the pattern only
(`groupEnd?_isSome`).
-/

namespace SecretScan.Pattern

/-! ## Named openers -/

/-- What is written in place of a named opener. -/
def namedSpan (s : Text) : Option (Span Unit) :=
  (namedOpener? s).map fun name => ⟨['(', '?', '<'] ++ name ++ ['>'], name.length + 5, ()⟩

theorem namedGroupEdit_follows : Follows namedGroupEdit namedSpan := by
  refine .of_eq (fun w => ?_) fun s span h => ?_
  · rw [namedGroupEdit, namedSpan]
    cases namedOpener? w.rest with
    | none => rfl
    | some name => rfl
  · obtain ⟨name, hname, rfl⟩ := Option.map_eq_some_iff.mp h
    obtain ⟨-, rest, hs⟩ := eq_of_namedOpener? hname
    exact ⟨⟨_, hs⟩, Nat.succ_pos _⟩

theorem namedSpan_neutral : Neutral namedSpan := by
  intro s span h
  obtain ⟨name, hname, rfl⟩ := Option.map_eq_some_iff.mp h
  obtain ⟨hchars, rest, rfl⟩ := eq_of_namedOpener? hname
  have hinert : ∀ c ∈ name ++ ['>'], IsInert c :=
    List.forall_mem_append.mpr
      ⟨fun c hc => isInert_of_isNameChar (hchars c hc), isInert_of_all (by decide)⟩
  have hold : ∀ c ∈ ['?', 'P', '<'] ++ (name ++ ['>']), IsInert c :=
    List.forall_mem_append.mpr ⟨isInert_of_all (by decide), hinert⟩
  have hout : ∀ c ∈ ['?', '<'] ++ (name ++ ['>']), IsInert c :=
    List.forall_mem_append.mpr ⟨isInert_of_all (by decide), hinert⟩
  exact ⟨_, rest, by simp, Span.replaces_opener hold hout (by simp) ()⟩

/-- Shortening named openers keeps the shape. -/
theorem shortenNamedGroups_sameShape (pattern : Text) :
    SameShape (marks .outside (shortenNamedGroups pattern) []) (marks .outside pattern []) :=
  (edit_rewrites namedGroupEdit_follows pattern).sameShape namedSpan_neutral

/-! ## Flag markers -/

/-- What is written in place of a flag marker: nothing. Its letters are noted. -/
def flagSpan (s : Text) : Option (Span (List Char)) :=
  (flagMarker? s).map fun (letters, n) => ⟨[], n, letters⟩

theorem flagMarkerEdit_follows : Follows flagMarkerEdit flagSpan := by
  refine .of_eq (fun w => ?_) fun s span h => ?_
  · rw [flagMarkerEdit, flagSpan]
    cases flagMarker? w.rest with
    | none => rfl
    | some marker => rfl
  · obtain ⟨⟨letters, n⟩, hmarker, rfl⟩ := Option.map_eq_some_iff.mp h
    obtain ⟨-, -, rfl, rest, hs⟩ := eq_of_flagMarker? hmarker
    exact ⟨⟨_, hs⟩, Nat.succ_pos _⟩

theorem flagSpan_neutral : Neutral flagSpan := by
  intro s span h
  obtain ⟨⟨letters, n⟩, hmarker, rfl⟩ := Option.map_eq_some_iff.mp h
  obtain ⟨-, hletters, rfl, rest, rfl⟩ := eq_of_flagMarker? hmarker
  have hold : ∀ c ∈ ['?'] ++ letters, IsInert c :=
    List.forall_mem_append.mpr
      ⟨isInert_of_all (by decide), fun c hc => isInert_of_isMarkerLetter (hletters c hc)⟩
  exact ⟨_, rest, by simp, Span.replaces_pair hold (by simp) letters⟩

/-- Removing the header keeps the shape. -/
theorem extractHeader_sameShape (pattern : Text) :
    SameShape (marks .outside (extractHeader pattern).pattern []) (marks .outside pattern []) := by
  rw [extractHeader]
  cases hmarker : flagMarker? pattern with
  | none => exact .refl _
  | some marker =>
      have hspan : flagSpan pattern = some ⟨[], marker.2, marker.1⟩ := by
        rw [flagSpan, hmarker]
        rfl
      exact flagSpan_neutral.sameShape hspan (.refl _)

/-- Removing flag markers keeps the shape. -/
theorem extractInlineFlags_sameShape (pattern : Text) (flags : FlagSet) :
    SameShape (marks .outside (extractInlineFlags pattern flags).pattern [])
      (marks .outside pattern []) :=
  (edit_rewrites flagMarkerEdit_follows pattern).sameShape flagSpan_neutral

/-! ## Scoped openers -/

/-- What is written in place of a scoped opener: a plain one, if the group has flags and is closed.
The flags that it switches on are noted. -/
def scopedSpan (s : Text) : Option (Span (List Char)) :=
  match scopedOpener? s with
  | some opener =>
    if (opener.on ≠ [] || opener.off ≠ []) && (groupEnd? s 0).isSome then
      some ⟨['('], opener.length, opener.on⟩
    else none
  | none => none

/-- A scoped opener is replaced only as one. -/
theorem eq_of_scopedSpan {s : Text} {span : Span (List Char)} (h : scopedSpan s = some span) :
    ∃ opener, scopedOpener? s = some opener ∧ span = ⟨['('], opener.length, opener.on⟩ := by
  unfold scopedSpan at h
  split at h
  · next opener hopener =>
      split at h
      · exact ⟨opener, hopener, (Option.some.inj h).symm⟩
      · cases h
  · cases h

theorem scopedFlagsEdit_follows : Follows scopedFlagsEdit scopedSpan := by
  refine .of_eq (fun w => ?_) fun s span h => ?_
  · -- the look ahead sees the whole text, but only the part behind the opener matters
    have hend : (groupEnd? w.text w.pos).isSome = (groupEnd? w.rest 0).isSome := by
      rw [groupEnd?_isSome, groupEnd?_isSome, Walk.rest, List.drop_drop]
    rw [scopedFlagsEdit, scopedSpan, hend]
    cases scopedOpener? w.rest with
    | none => rfl
    | some opener =>
        by_cases hflags :
            ((opener.on ≠ [] || opener.off ≠ []) && (groupEnd? w.rest 0).isSome) = true
        · simp only [hflags, if_true]
        · simp only [hflags, if_false, Bool.false_eq_true]
  · obtain ⟨opener, hopener, rfl⟩ := eq_of_scopedSpan h
    obtain ⟨-, -, off, rest, -, hs, hlen⟩ := eq_of_scopedOpener? hopener
    refine ⟨⟨_, hs⟩, ?_⟩
    show 0 < opener.length
    omega

theorem scopedSpan_neutral : Neutral scopedSpan := by
  intro s span h
  obtain ⟨opener, hopener, rfl⟩ := eq_of_scopedSpan h
  obtain ⟨hon, hoff, off, rest, hminus, rfl, hlen⟩ := eq_of_scopedOpener? hopener
  -- the flags that are switched off may be missing, with their `-`
  have hswitch : ∀ c ∈ off, IsInert c := by
    rcases hminus with rfl | rfl
    · simp
    · exact List.forall_mem_cons.mpr
        ⟨by decide, fun c hc => isInert_of_isMarkerLetter (hoff c hc)⟩
  have hold : ∀ c ∈ ['?'] ++ (opener.on ++ (off ++ [':'])), IsInert c :=
    List.forall_mem_append.mpr ⟨isInert_of_all (by decide), List.forall_mem_append.mpr
      ⟨fun c hc => isInert_of_isMarkerLetter (hon c hc),
        List.forall_mem_append.mpr ⟨hswitch, isInert_of_all (by decide)⟩⟩⟩
  refine ⟨_, rest, by simp, Span.replaces_opener hold (by simp) ?_ opener.on⟩
  simp only [List.length_append, List.length_singleton]
  omega

/-- Changing scoped openers keeps the shape. -/
theorem promoteScopedFlags_sameShape (pattern : Text) (flags : FlagSet) :
    SameShape (marks .outside (promoteScopedFlags pattern flags).1 [])
      (marks .outside pattern []) :=
  (edit_rewrites scopedFlagsEdit_follows pattern).sameShape scopedSpan_neutral

/-! ## Free spacing -/

/-- What is written in place of a blank: nothing. -/
def blankSpan : Text → Option (Span Unit)
  | [] => none
  | c :: _ => if isFreeSpace c then some ⟨[], 1, ()⟩ else none

theorem isInert_of_isFreeSpace {c : Char} (h : isFreeSpace c = true) : IsInert c :=
  isInert_of_class h (by decide)

theorem blankSpan_neutral : Neutral blankSpan := by
  intro s span h
  match s with
  | [] => cases h
  | c :: s =>
    rw [blankSpan] at h
    split at h
    · next hblank =>
        obtain rfl := Option.some.inj h
        have hc := isInert_of_isFreeSpace hblank
        have hold : ∀ d ∈ [c], IsInert d := by simpa using hc
        refine ⟨[c], s, rfl, rfl, fun d hd => (hold d hd).1, by simp, fun depth => ?_⟩
        exact (nesting_of_inert hold depth).symm
    · cases h

/-- What stripping keeps of some marks. -/
def keptText (ks : List Mark) : Text :=
  (ks.filter fun k => !(k.2 = .char && isFreeSpace k.1)).map Prod.fst

theorem stripFreeSpace_eq (pattern : Text) :
    stripFreeSpace pattern = keptText (marks .outside pattern []) := by
  rw [keptText, ← tokens_mark, List.filter_map, List.map_map]
  rfl

theorem marks_text (m : Mode) (t ahead : Text) : (marks m t ahead).map Prod.fst = t := by
  induction t generalizing m with
  | nil => rfl
  | cons c t ih => rw [marks, List.map_cons, ih]

/-- What is no syntax is kept. -/
theorem keptText_of_covered {t : Text} (h : Covered (marks .outside t [])) :
    keptText (marks .outside t []) = t := by
  have hall : (marks .outside t []).filter (fun k => !(k.2 = .char && isFreeSpace k.1))
      = marks .outside t [] :=
    List.filter_eq_self.mpr fun k hk => by simp [h k hk]
  rw [keptText, hall, marks_text]

theorem keptText_rewrites (pattern : Text) :
    ∃ notes, Rewrites blankSpan pattern (keptText (marks .outside pattern [])) notes := by
  induction pattern using pieceInduction with
  | nil => exact ⟨[], .nil⟩
  | plain c s hplain ih =>
      obtain ⟨notes, ih⟩ := ih s (Nat.le_refl _)
      rw [marks_cons_plain hplain]
      by_cases hblank : isFreeSpace c = true
      · have hkept : keptText ((c, .char) :: marks .outside s [])
            = keptText (marks .outside s []) := by
          simp [keptText, hblank]
        have hspan : blankSpan (c :: s) = some ⟨[], 1, ()⟩ := if_pos hblank
        rw [hkept]
        exact ⟨_, Rewrites.span hplain hspan ih⟩
      · have hkept : keptText ((c, .char) :: marks .outside s [])
            = c :: keptText (marks .outside s []) := by
          simp [keptText, hblank]
        rw [hkept]
        exact ⟨notes, .keep hplain (if_neg hblank) ih⟩
  | sealed t s ht ih =>
      obtain ⟨notes, ih⟩ := ih
      have hkept : keptText (marks .outside (t ++ s) []) = t ++ keptText (marks .outside s []) := by
        rw [ht.marks_append, keptText, List.filter_append, List.map_append]
        exact congrArg (· ++ _) (keptText_of_covered ht.covered)
      rw [hkept]
      exact ⟨notes, .sealed ht ih⟩
  | hanging t ht =>
      rw [keptText_of_covered ht]
      exact ⟨[], .hanging ht⟩

/-- Stripping blanks keeps the shape. -/
theorem stripFreeSpace_sameShape (pattern : Text) :
    SameShape (marks .outside (stripFreeSpace pattern) []) (marks .outside pattern []) := by
  obtain ⟨notes, h⟩ := keptText_rewrites pattern
  rw [stripFreeSpace_eq]
  exact h.sameShape blankSpan_neutral

end SecretScan.Pattern
