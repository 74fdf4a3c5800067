import SecretScan.Proofs.Pattern.Form

/-!
# Native patterns

A pattern may be written in native form already. Then conversion must not touch it, whatever it
holds in classes, behind backslashes, or in constructs that are cut short. `Foreign` lists the five
things that are not native, each by the tokens and the text that one sees in the pattern. Without
them a pattern is settled (`settled_iff`), so every pass comes back with what it was given, and the
only flag is the one that is always there.

Each line is walked on its own in the search for its trailing comment, so that one of the five is
said about the tokens of a line, not of the pattern.
-/

namespace SecretScan.Pattern

/-! ## Comments at the end of a line -/

/-- A line has a comment at its end: a blank and a `#` as syntax, and behind them only words and
blanks. -/
def HasTrailingComment (line : Text) : Prop :=
  ∃ before blank hash after, tokens line = before ++ blank :: hash :: after
    ∧ blank.kind = .char ∧ Text.isBlank blank.char = true ∧ hash.isSyntax '#' = true
    ∧ ∀ t ∈ after, isCommentChar t.char = true

/-- Tokens that are cut in two are the tokens of a text that is cut in two. -/
theorem tokens_eq_append {s : Text} {before after : List Token}
    (h : tokens s = before ++ after) : ∃ a b, s = a ++ b ∧ before = tokensFrom 0 .outside a b
      ∧ after = tokensFrom a.length (Mode.outside.behind a b) b [] := by
  have hs := congrArg (List.map Token.char) h
  rw [tokens_eq, tokensFrom_map_char, List.map_append] at hs
  generalize ha : before.map Token.char = a at hs
  generalize after.map Token.char = b at hs
  -- there are as many tokens as characters, so both are cut at the same place
  have hlen : before.length = (tokensFrom 0 .outside a b).length := by
    have hcount := congrArg List.length (tokensFrom_map_char 0 .outside a b)
    rw [List.length_map, ← ha, List.length_map] at hcount
    rw [ha] at hcount
    exact hcount.symm
  subst hs
  rw [tokens_eq, tokensFrom_append, List.append_nil, Nat.zero_add] at h
  obtain ⟨hbefore, hafter⟩ := List.append_inj h hlen.symm
  exact ⟨a, b, rfl, hbefore.symm, hafter.symm⟩

theorem forall_mem_tokensFrom {P : Char → Prop} {pos : Nat} {m : Mode} {s ahead : Text} :
    (∀ t ∈ tokensFrom pos m s ahead, P t.char) ↔ ∀ c ∈ s, P c := by
  have hchars := tokensFrom_map_char pos m s ahead
  generalize tokensFrom pos m s ahead = ts at hchars
  rw [← hchars, List.forall_mem_map]

theorem hasTrailingComment_iff {line : Text} :
    HasTrailingComment line ↔ ∃ a, TrailingAt .outside line a := by
  constructor
  · rintro ⟨before, blank, hash, after, htokens, hkind, hblank, hhash, hafter⟩
    obtain ⟨a, b, rfl, -, hbehind⟩ := tokens_eq_append htokens
    match b with
    | [] => cases hbehind
    | [d] => cases hbehind
    | d :: e :: b =>
      simp only [tokensFrom, List.cons.injEq] at hbehind
      obtain ⟨rfl, rfl, rfl⟩ := hbehind
      -- the blank is syntax, so the walk comes to it outside
      have hmode := (Mode.read_eq_char_iff.mp hkind).1
      obtain ⟨-, -, rfl⟩ := isSyntax_tokenIn.mp hhash
      exact ⟨a, d, b, rfl, hmode, hblank, forall_mem_tokensFrom.mp hafter⟩
  · rintro ⟨a, d, b, rfl, hmode, hblank, hb⟩
    have hplain := isPlain_of_isBlank hblank
    have hread := Mode.read_plain hplain ('#' :: b)
    refine ⟨tokensFrom 0 .outside a (d :: '#' :: b), tokenIn .outside a.length d ('#' :: b),
      tokenIn .outside (a.length + 1) '#' b, tokensFrom (a.length + 1 + 1) .outside b [], ?_, ?_,
      hblank, ?_, forall_mem_tokensFrom.mpr hb⟩
    · rw [tokens_eq, tokensFrom_append, List.append_nil, hmode, Nat.zero_add, tokensFrom,
        List.append_nil, hread, tokensFrom, List.append_nil]
      rfl
    · exact congrArg Prod.fst hread
    · exact isSyntax_tokenIn.mpr ⟨rfl, by decide, rfl⟩

/-! ## What is not native -/

/-- Something in the pattern is not in native form. -/
inductive Foreign (p : Text) : Prop where
  /-- A comment group that is closed somewhere. -/
  | commentGroup {rest : Text} :
      SyntaxAt p ('(' :: '?' :: '#' :: rest) → ')' ∈ rest → Foreign p
  /-- A comment at the end of a line. -/
  | trailingComment {line : Text} :
      line ∈ Text.splitOn '\n' p → HasTrailingComment line → Foreign p
  /-- A long opener of a named group. -/
  | namedGroup {name : Text} : NamedIn p name → Foreign p
  /-- A flag marker. -/
  | flagMarker {letters : List Char} : MarkerIn p letters → Foreign p
  /-- A closed group with flags of its own. -/
  | scopedGroup {on off : List Char} {rest : Text} : ScopedIn p on off rest → Foreign p

theorem Settled.not_foreign {p : Text} (h : Settled p) : ¬ Foreign p := by
  intro hp
  cases hp with
  | commentGroup hr hclose =>
      exact h.noGroup _ hr ⟨_, rfl⟩ (List.mem_append_right ['(', '?', '#'] hclose)
  | trailingComment hline hcomment =>
      obtain ⟨a, ha⟩ := hasTrailingComment_iff.mp hcomment
      exact h.noTrailing _ hline a ha
  | namedGroup hname =>
      obtain ⟨r, hr, hopener⟩ := namedIn_iff.mp hname
      rw [h.noNamed r hr] at hopener
      cases hopener
  | flagMarker hmarker =>
      obtain ⟨r, n, hr, hflags⟩ := markerIn_iff.mp hmarker
      rw [h.noMarker r hr] at hflags
      cases hflags
  | @scopedGroup on off rest hscoped =>
      obtain ⟨⟨hon, hoff, hflags⟩, hr, hclosed⟩ := scopedIn_iff.mp hscoped
      have hopener : scopedOpener? ('(' :: '?' :: (on ++ (switchOff off ++ ':' :: rest)))
          = some ⟨on, off, on.length + (switchOff off).length + 3⟩ :=
        scopedOpener?_eq_some_iff.mpr ⟨hon, hoff, rfl, rest, rfl⟩
      rw [h.noScoped _ _ hr hopener hflags] at hclosed
      cases hclosed

theorem settled_of_not_foreign {p : Text} (h : ¬ Foreign p) : Settled p where
  noGroup := by
    rintro r hr ⟨rest, rfl⟩ hclose
    have hmem : ')' ∈ rest := by simpa using hclose
    exact h (.commentGroup hr hmem)
  noTrailing := fun line hline a ha =>
    h (.trailingComment hline (hasTrailingComment_iff.mpr ⟨a, ha⟩))
  noNamed := by
    intro r hr
    rw [Option.eq_none_iff_forall_ne_some]
    intro name hname
    exact h (.namedGroup (namedIn_iff.mpr ⟨r, hr, hname⟩))
  noMarker := by
    intro r hr
    rw [Option.eq_none_iff_forall_ne_some]
    rintro ⟨letters, n⟩ hmarker
    exact h (.flagMarker (markerIn_iff.mpr ⟨r, n, hr, hmarker⟩))
  noScoped := by
    intro r opener hr hopener hflags
    obtain ⟨hon, hoff, -, rest, rfl⟩ := scopedOpener?_eq_some_iff.mp hopener
    by_contra hclosed
    have hsome := Option.isSome_iff_ne_none.mpr hclosed
    exact h (.scopedGroup (scopedIn_iff.mpr ⟨⟨hon, hoff, hflags⟩, hr, hsome⟩))

/-- **A pattern is settled exactly if nothing in it is foreign.** -/
theorem settled_iff {p : Text} : Settled p ↔ ¬ Foreign p :=
  ⟨Settled.not_foreign, settled_of_not_foreign⟩

/-! ## Converting native patterns -/

/--
**Conversion touches nothing but what is foreign.**

It only takes characters out, and it takes some out exactly if something in the pattern is not in
native form. A native pattern passes with no flag but `g`, and any other one gets shorter.
-/
theorem convert_native (p : Text) :
    (convert p).pattern.Sublist p
      ∧ ((convert p).pattern = p ↔ ¬ Foreign p)
      ∧ (¬ Foreign p → convert p = ⟨p, ['g'], false⟩)
      ∧ ((convert p).pattern ≠ p → (convert p).pattern.length < p.length) := by
  refine ⟨convert_sublist p, convert_eq_self_iff.trans settled_iff, fun hp => ?_, fun hne => ?_⟩
  · exact (settled_iff.mpr hp).convert_eq
  · exact convert_shortens fun h => hne (convert_eq_self_iff.mpr h)

/-- An escape, a class, a look-ahead and a scoped group that is cut short are native. -/
example : convert "\\(?i) [(?i)] (?=a) (?i:b".toList
    = ⟨"\\(?i) [(?i)] (?=a) (?i:b".toList, ['g'], false⟩ := by
  decide +kernel

end SecretScan.Pattern
