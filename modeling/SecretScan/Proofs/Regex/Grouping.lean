import SecretScan.Proofs.Pattern.Grouping
import SecretScan.Proofs.Regex.Consumption

/-!
# What can be read is grouped

The parser reads grouped text only (`isGrouped_of_parse`): there is one lemma for every function of
the parser, each says what it takes off the front, and the four that call each other go by one
induction on their fuel (`groups`).

The parser knows no notation but its own, so it never needs the one thing that a division leaves
open, a switch to another notation.
-/

namespace SecretScan.Regex

open Pattern

variable {r r' : Reader} {s t u : Text}

theorem Reader.Eats.grouped (h : r.Eats r') : Grouped r.rest r'.rest := by
  obtain ⟨eaten, hrest, heaten⟩ := h
  rw [hrest]
  clear hrest
  induction eaten with
  | nil => exact .refl
  | cons c eaten ih =>
      obtain ⟨hc, heaten⟩ := List.forall_mem_cons.mp heaten
      exact .inert hc.isInert (ih heaten)

theorem readEscape_grouped {inClass : Bool} {e : Escape}
    (h : readEscape inClass r = .ok (e, r')) : Grouped ('\\' :: r.rest) r'.rest := by
  obtain ⟨c, s, hrest, htail, hmore⟩ := readEscape_eats h
  rw [hrest, ← htail]
  exact .escape hmore.grouped

/-! ## Named items -/

theorem exists_negation (r : Reader) :
    ∃ u, r.rest = u ++ r.negation.2.rest ∧ ∀ c ∈ u, c = '^' := by
  unfold Reader.negation
  split
  · next heq => exact ⟨['^'], Reader.accept?_eq_some heq, by simp⟩
  · exact ⟨[], rfl, nofun⟩

theorem rest_negation_of_ne (h : r.rest.head? ≠ some '^') : r.negation.2.rest = r.rest := by
  unfold Reader.negation
  split
  · next heq =>
      rw [Reader.accept?_eq_some heq] at h
      exact absurd rfl h
  · rfl

theorem rest_negation (h : r.rest = '^' :: s) : r.negation.2.rest = s := by
  unfold Reader.negation
  split
  · next heq =>
      rw [Reader.accept?_eq_some heq] at h
      exact (List.cons.inj h).2
  · next heq => exact absurd (by rw [h]; rfl) (Reader.accept?_eq_none heq)

theorem accept?_isSome (h : r.rest = t ++ s) : (r.accept? t).isSome = true := by
  rw [Reader.accept?, if_pos (List.isPrefixOf_iff_prefix.mpr ⟨s, h.symm⟩)]
  rfl

theorem isPropertyChar_of_isAlpha {c : Char} (h : c.isAlpha = true) : isPropertyChar c = true := by
  simp [isPropertyChar, Char.isAlphanum, h]

theorem isItemChar_of_isPropertyChar {c : Char} (h : isPropertyChar c = true) :
    isItemChar c = true := by
  rw [isPropertyChar, Bool.or_eq_true, List.contains_iff_mem] at h
  rw [isItemChar, Bool.or_eq_true, List.contains_iff_mem]
  exact h.imp_right fun hmem => List.IsPrefix.subset (by decide) hmem

/-- Letters and `:]` are a named item for the parser. -/
theorem readNamedItem?_of_letters {inner : Reader} (hinner : inner = r.negation.2)
    (hrest : inner.rest = t ++ ':' :: ']' :: s) (ht : ∀ c ∈ t, c.isAlpha = true) :
    readNamedItem? r ≠ .ok none := by
  have hspan : (inner.span isPropertyChar).2.rest = ':' :: ']' :: s := by
    have htake : inner.rest.takeWhile isPropertyChar = t := by
      rw [hrest, List.takeWhile_append_of_pos fun c hc => isPropertyChar_of_isAlpha (ht c hc),
        List.takeWhile_cons_of_neg (by decide), List.append_nil]
    show inner.rest.drop (inner.rest.takeWhile isPropertyChar).length = _
    rw [htake, hrest, List.drop_left]
  have hsome := accept?_isSome (t := [':', ']']) hspan
  intro h
  unfold readNamedItem? at h
  dsimp only at h
  rw [← hinner] at h
  split at h
  · next hclose =>
      rw [hclose] at hsome
      cases hsome
  · split at h <;> cases h

/-- Where the parser sees no named item, the walk sees none. -/
theorem namedItemLength?_of_readNamedItem? (h : readNamedItem? r = .ok none) :
    namedItemLength? ('[' :: ':' :: r.rest) = none := by
  cases hn : namedItemLength? ('[' :: ':' :: r.rest) with
  | none => rfl
  | some n =>
      obtain ⟨name, rest, hname, hs, -⟩ := namedItemLength?_eq_some.mp hn
      cases hname with
      | @plain letters hne hl =>
          have hrest : r.rest = letters ++ ':' :: ']' :: rest := by simpa using hs
          have hcaret : r.rest.head? ≠ some '^' := by
            cases letters with
            | nil => exact absurd rfl hne
            | cons c letters =>
                rw [hrest]
                intro e
                have halpha := hl c List.mem_cons_self
                rw [Option.some.inj e] at halpha
                cases halpha
          rw [← rest_negation_of_ne hcaret] at hrest
          exact absurd h (readNamedItem?_of_letters rfl hrest hl)
      | @negated letters hne hl =>
          have hrest : r.rest = '^' :: (letters ++ ':' :: ']' :: rest) := by simpa using hs
          exact absurd h (readNamedItem?_of_letters rfl (rest_negation hrest) hl)

/-- The parser takes a named item off up to its `:]`. -/
theorem readNamedItem?_eq_some {item : ClassItem} (h : readNamedItem? r = .ok (some (item, r'))) :
    ∃ name, r.rest = name ++ ':' :: ']' :: r'.rest ∧ ∀ c ∈ name, isItemChar c = true := by
  unfold readNamedItem? at h
  obtain ⟨caret, hcaret, hcarets⟩ := exists_negation r
  have hspan := Reader.rest_span r.negation.2 isPropertyChar
  dsimp only at h
  split at h
  · cases h
  next last hclose =>
  have hlast := Reader.accept?_eq_some hclose
  split at h
  · cases h
    refine ⟨caret ++ (r.negation.2.span isPropertyChar).1, ?_, ?_⟩
    · rw [hcaret, hspan, hlast]
      simp
    · refine List.forall_mem_append.mpr ⟨fun c hc => ?_, fun c hc => ?_⟩
      · rw [hcarets c hc]
        decide
      · exact isItemChar_of_isPropertyChar (Reader.mem_span hc)
  · cases h

/-! ## Classes -/

theorem takesMembers_append (hs : ∀ c ∈ s, IsHarmless c) (h : TakesMembers t u) :
    TakesMembers (s ++ t) u := by
  induction s with
  | nil => exact h
  | cons c s ih =>
      obtain ⟨hc, hs⟩ := List.forall_mem_cons.mp hs
      obtain ⟨hback, hopen, hclose, -⟩ := isHarmless_iff.mp hc
      have hitem : namedItemLength? (c :: (s ++ t)) = none := by
        unfold namedItemLength?
        split
        · next heq => exact absurd (List.cons.inj heq).1 hopen
        · rfl
      exact .member (fun e => hclose (Option.some.inj e)) (.plain hback hitem) (ih hs)

/-- `LeadsOn s t`: in front of `t`, the end of `s`, stand a member of a class and maybe others. -/
def LeadsOn (s t : Text) : Prop :=
  ∃ s', TakesMember s s' ∧ ∀ u, TakesMembers t u → TakesMembers s' u

theorem leadsOn_of_member (h : TakesMember s t) : LeadsOn s t :=
  ⟨t, h, fun _ h => h⟩

theorem LeadsOn.eats (h : LeadsOn s r.rest) (heats : r.Eats r') : LeadsOn s r'.rest := by
  obtain ⟨s', hmember, hmore⟩ := h
  obtain ⟨eaten, hrest, heaten⟩ := heats
  refine ⟨s', hmember, fun u hu => hmore u ?_⟩
  rw [hrest]
  exact takesMembers_append heaten hu

theorem LeadsOn.members (h : LeadsOn s t) (hclose : s.head? ≠ some ']')
    (hmembers : TakesMembers t u) : TakesMembers s u := by
  obtain ⟨s', hmember, hmore⟩ := h
  exact .member hclose hmember (hmore u hmembers)

theorem LeadsOn.trans (h : LeadsOn s t) (hclose : t.head? ≠ some ']') (h' : LeadsOn t u) :
    LeadsOn s u := by
  obtain ⟨s', hmember, hmore⟩ := h
  exact ⟨s', hmember, fun v hv => hmore v (h'.members hclose hv)⟩

/-- **A member of a class** is an escape, a named item or any other character. -/
theorem readClassItem_leads {item : ClassItem} (h : readClassItem r = .ok (item, r')) :
    LeadsOn r.rest r'.rest := by
  unfold readClassItem at h
  split at h
  · cases h
  · next s hr =>
      obtain ⟨⟨e, r₁⟩, hescape, h⟩ := bind_eq_ok.mp h
      have hlast : r₁ = r' := by
        dsimp only at h
        split at h <;> cases h <;> rfl
      obtain ⟨c, t, hrest, htail, hmore⟩ := readEscape_eats hescape
      rw [hr, ← Reader.rest_advance_one hr, hrest, ← htail, ← hlast]
      exact (leadsOn_of_member .escape).eats hmore
  · next c s hback hr =>
      have hplain (hitem : namedItemLength? (c :: s) = none) :
          LeadsOn r.rest (r.advance 1).rest := by
        rw [Reader.rest_advance_one hr, hr]
        exact leadsOn_of_member (.plain hback hitem)
      dsimp only at h
      split at h
      · next inner hinner =>
          have hopen : r.rest = '[' :: ':' :: inner.rest := Reader.accept?_eq_some hinner
          obtain ⟨named, hnamed, h⟩ := bind_eq_ok.mp h
          cases named with
          | some result =>
              cases h
              obtain ⟨name, hname, hchars⟩ := readNamedItem?_eq_some hnamed
              rw [hopen, hname]
              exact leadsOn_of_member (.named hchars)
          | none =>
              cases h
              refine hplain ?_
              rw [← hr, hopen]
              exact namedItemLength?_of_readNamedItem? hnamed
      · next hinner =>
          cases h
          refine hplain ?_
          unfold namedItemLength?
          split
          · next heq =>
              -- text that begins with `[:` would have been looked into
              have hsome := accept?_isSome (t := ['[', ':']) (hr.trans heq)
              rw [hinner] at hsome
              cases hsome
          · rfl

theorem readClassMember_leads {items : List ClassItem} (h : readClassMember r = .ok (items, r')) :
    LeadsOn r.rest r'.rest := by
  unfold readClassMember at h
  obtain ⟨⟨first, r₁⟩, hfirst, h⟩ := bind_eq_ok.mp h
  have hone := readClassItem_leads hfirst
  dsimp only at h
  split at h
  · next low next hdash =>
      have htwo : LeadsOn r.rest next.rest := hone.eats (.accept? hdash (by decide))
      split at h
      · cases h
        exact htwo
      · next hclose =>
          obtain ⟨⟨last, r₂⟩, hlast, h⟩ := bind_eq_ok.mp h
          have hhead : next.rest.head? ≠ some ']' := fun e => by
            obtain ⟨t, ht⟩ := List.head?_eq_some_iff.mp e
            exact hclose t ht
          have hthree := htwo.trans hhead (readClassItem_leads hlast)
          dsimp only at h
          split at h
          · split at h
            · cases h
            · cases h
              exact hthree
          · cases h
            exact hthree
  · cases h
    exact hone

/-- The members of a class, up to its closing bracket. -/
theorem readClassMembers_takes {n : Nat} {items all : List ClassItem}
    (h : readClassMembers n items r = .ok (all, r')) :
    ∃ s, TakesMember r.rest s ∧ TakesMembers s r'.rest := by
  induction n generalizing items r with
  | zero => cases h
  | succ n ih =>
      unfold readClassMembers at h
      obtain ⟨⟨more, r₁⟩, hmember, h⟩ := bind_eq_ok.mp h
      obtain ⟨s, hone, hmore⟩ := readClassMember_leads hmember
      refine ⟨s, hone, hmore _ ?_⟩
      dsimp only at h
      split at h
      · next r₂ hclose =>
          cases h
          rw [Reader.accept?_eq_some hclose]
          exact .close
      · next hclose =>
          obtain ⟨s', hnext, hrest⟩ := ih h
          exact .member (Reader.accept?_eq_none hclose) hnext hrest

/-- **A class**, after its opening bracket. -/
theorem readClass_takes {node : Node} (h : readClass r = .ok (node, r')) :
    TakesClass r.rest r'.rest := by
  unfold readClass at h
  obtain ⟨⟨items, r₁⟩, hmembers, h⟩ := bind_eq_ok.mp h
  cases h
  obtain ⟨s, hfirst, hmore⟩ := readClassMembers_takes (r := r.negation.2) hmembers
  by_cases hcaret : r.rest.head? = some '^'
  · obtain ⟨t, ht⟩ := List.head?_eq_some_iff.mp hcaret
    rw [rest_negation ht] at hfirst
    rw [ht]
    exact .negated hfirst hmore
  · rw [rest_negation_of_ne hcaret] at hfirst
    exact .plain hcaret hfirst hmore

/-! ## Groups -/

/-- What stands behind a `(` when a group begins like this: a complete element, or the front of a
group whose inside comes next. -/
def Opening.Leads (r r' : Reader) : Opening → Prop
  | .element _ => Grouped ('(' :: r.rest) r'.rest
  | _ => Grouped r.rest r'.rest

theorem readFlagGroup_leads {opening : Opening} {r₁ : Reader} (hr : Grouped r.rest r₁.rest)
    (h : readFlagGroup r₁ = .ok (opening, r')) : opening.Leads r r' := by
  unfold readFlagGroup at h
  obtain ⟨⟨letters, r₂⟩, hflags, h⟩ := bind_eq_ok.mp h
  have hletters := hr.trans (readFlags_eats hflags).grouped
  dsimp only at h
  split at h
  · next hr₂ =>
      cases h
      have hcolon := (Reader.Eats.front [':'] hr₂ (by decide)).grouped
      exact hletters.trans hcolon
  · next t hr₂ =>
      split at h
      · cases h
      split at h
      · cases h
        show Grouped ('(' :: r.rest) (r₂.advance 1).rest
        rw [Reader.rest_advance_one hr₂]
        rw [hr₂] at hletters
        exact .group hletters .refl
      · cases h
  · cases h

/-- A comment ends at the first parenthesis that closes. -/
theorem grouped_comment {r₁ : Reader} (hr : r.rest = '?' :: '#' :: s)
    (hclose : ((r.advance 2).span (· ≠ ')')).2.expect ')' = .ok r₁) :
    Grouped ('(' :: r.rest) r₁.rest := by
  have hrest : (r.advance 2).rest = s := by
    rw [Reader.advance, hr]
    rfl
  have hspan := Reader.rest_span (r.advance 2) (· ≠ ')')
  rw [Reader.expect_eq_ok hclose, hrest] at hspan
  rw [hr, hspan]
  refine .remark ?_ .refl
  intro front back hbody
  have hno := Reader.mem_span (hbody ▸ List.mem_append_right front List.mem_cons_self)
  simp at hno

/-- **The beginning of a group.** -/
theorem readOpening_leads {opening : Opening} (h : readOpening r = .ok (opening, r')) :
    opening.Leads r r' := by
  unfold readOpening at h
  split at h
  · next hr =>
      cases h
      exact (Reader.Eats.front ['?', '<', '='] hr (by decide)).grouped
  · next hr =>
      cases h
      exact (Reader.Eats.front ['?', '<', '!'] hr (by decide)).grouped
  · next hr =>
      have hfront := Reader.Eats.front ['?', '<'] hr (by decide)
      obtain ⟨hname, group, rfl⟩ := readNamedGroup_eats h
      exact (hfront.trans hname).grouped
  · next hr =>
      cases h
      exact (Reader.Eats.front ['?', '='] hr (by decide)).grouped
  · next hr =>
      cases h
      exact (Reader.Eats.front ['?', '!'] hr (by decide)).grouped
  · next hr =>
      cases h
      exact (Reader.Eats.front ['?', '>'] hr (by decide)).grouped
  · next hr =>
      have hfront := Reader.Eats.front ['?', 'P', '<'] hr (by decide)
      obtain ⟨hname, group, rfl⟩ := readNamedGroup_eats h
      exact (hfront.trans hname).grouped
  · next hr =>
      have hfront := Reader.Eats.front ['?', 'P', '='] hr (by decide)
      dsimp only at h
      obtain ⟨⟨ref, r₁⟩, hname, h⟩ := bind_eq_ok.mp h
      obtain ⟨r₂, hclose, h⟩ := bind_eq_ok.mp h
      have hname := (hfront.trans (readName_eats hname)).grouped
      rw [Reader.expect_eq_ok hclose] at hname
      split at h
      · next href =>
          cases h
          rw [readRef_rest href] at hname
          exact .group hname .refl
      · cases h
  · cases h
  · next s hr =>
      dsimp only at h
      obtain ⟨r₁, hclose, h⟩ := bind_eq_ok.mp h
      cases h
      exact grouped_comment hr hclose
  · next hr =>
      have hfront := (Reader.Eats.front ['?'] hr (by decide)).grouped
      exact readFlagGroup_leads hfront h
  · split at h
    · cases h
    · cases h
      exact (openGroup_eats r none).grouped
  · cases h
    exact (openGroup_eats r none).grouped

/-! ## Whole patterns -/

/-- What the parser reads with fuel `n` is grouped. -/
structure Groups (n : Nat) : Prop where
  /-- Alternatives. -/
  alternatives : ∀ {r r' : Reader} {node : Node}, readAlternatives n r = .ok (node, r') →
    Grouped r.rest r'.rest
  /-- Elements one after the other. -/
  sequence : ∀ {done : List Node} {last : Option Node} {r r' : Reader} {node : Node},
    readSequence n done last r = .ok (node, r') → Grouped r.rest r'.rest
  /-- A group with its parentheses. -/
  group : ∀ {r r' : Reader} {node : Option Node}, readGroup n r = .ok (node, r') →
    Grouped ('(' :: r.rest) r'.rest
  /-- The inside of a group, up to its `)`. -/
  body : ∀ {flags : Flags} {r r' : Reader} {node : Node}, readBody n flags r = .ok (node, r') →
    Grouped r.rest (')' :: r'.rest)

section

variable {n : Nat}

theorem readAlternatives_groups {node : Node} (ih : Groups n)
    (h : readAlternatives (n + 1) r = .ok (node, r')) : Grouped r.rest r'.rest := by
  unfold readAlternatives at h
  obtain ⟨⟨first, r₁⟩, hfirst, h⟩ := bind_eq_ok.mp h
  have hone := ih.sequence hfirst
  dsimp only at h
  split at h
  · cases h
    exact hone
  · next r₂ hbar =>
      have hbar : r₁.Eats r₂ := .accept? hbar (by decide)
      obtain ⟨⟨others, r₃⟩, hothers, h⟩ := bind_eq_ok.mp h
      cases h
      exact hone.trans (hbar.grouped.trans (ih.alternatives hothers))

theorem readBody_groups {flags : Flags} {node : Node} (ih : Groups n)
    (h : readBody (n + 1) flags r = .ok (node, r')) : Grouped r.rest (')' :: r'.rest) := by
  unfold readBody at h
  obtain ⟨⟨body, r₁⟩, hbody, h⟩ := bind_eq_ok.mp h
  obtain ⟨r₂, hclose, h⟩ := bind_eq_ok.mp h
  cases h
  have hone := ih.alternatives hbody
  rwa [Reader.expect_eq_ok hclose] at hone

theorem readGroup_groups {node : Option Node} (ih : Groups n)
    (h : readGroup (n + 1) r = .ok (node, r')) : Grouped ('(' :: r.rest) r'.rest := by
  unfold readGroup at h
  dsimp only at h
  obtain ⟨⟨opening, r₁⟩, hopening, h⟩ := bind_eq_ok.mp h
  have hlead : opening.Leads r r₁ := readOpening_leads hopening
  -- whatever the kind of the group, its inside follows what has been read
  have hgroup (hr : Grouped r.rest r₁.rest) {flags : Flags} {body : Node} {r₂ : Reader}
      (hbody : readBody n flags r₁ = .ok (body, r₂)) : Grouped ('(' :: r.rest) r₂.rest :=
    .group (hr.trans (ih.body hbody)) .refl
  dsimp only at h
  split at h
  · cases h
    exact hlead
  all_goals
    obtain ⟨⟨body, r₂⟩, hbody, h⟩ := bind_eq_ok.mp h
    cases h
    have hone := hgroup hlead hbody
    exact hone

theorem readSequence_groups {done : List Node} {last : Option Node} {node : Node}
    (ih : Groups n) (h : readSequence (n + 1) done last r = .ok (node, r')) :
    Grouped r.rest r'.rest := by
  unfold readSequence at h
  split at h
  · cases h
    exact .refl
  next c s hr =>
  have hnext : (r.advance 1).rest = s := Reader.rest_advance_one hr
  dsimp only at h
  split at h
  · cases h
    exact .refl
  next hend =>
  split at h
  · next hc =>
      obtain ⟨⟨element, r₁⟩, hgroup, h⟩ := bind_eq_ok.mp h
      rw [hr, hc, ← hnext]
      have hone := ih.group hgroup
      dsimp only at h
      split at h
      · exact hone.trans (ih.sequence h)
      · exact hone.trans (ih.sequence h)
  next hopen =>
  split at h
  · next hc =>
      obtain ⟨⟨escape, r₁⟩, hescape, h⟩ := bind_eq_ok.mp h
      rw [hr, hc, ← hnext]
      exact (readEscape_grouped hescape).trans (ih.sequence h)
  next hback =>
  split at h
  · next hc =>
      obtain ⟨⟨cls, r₁⟩, hclass, h⟩ := bind_eq_ok.mp h
      rw [hr, hc, ← hnext]
      exact .cls (readClass_takes hclass) (ih.sequence h)
  next hclass =>
  -- what is left is one inert character, perhaps with the rest of a repetition
  have hinert : IsInert c := ⟨⟨hback, hclass⟩, hopen, fun e => hend (by simp [e])⟩
  rw [hr, ← hnext]
  obtain ⟨quantifier, hquantifier, h⟩ := bind_eq_ok.mp h
  split at h
  · next bounds r₁ =>
      have hbounds := readQuantifier?_eats hquantifier
      have hgreed : r₁.Eats (if last.isSome then readGreed r₁ else (.greedy, r₁)).2 := by
        split
        · exact readGreed_eats r₁
        · exact .of_rest rfl
      obtain ⟨repetition, -, h⟩ := bind_eq_ok.mp h
      exact .inert hinert ((hbounds.trans hgreed).grouped.trans (ih.sequence h))
  · exact .inert hinert (ih.sequence h)

/-- **Whatever the parser reads, with any fuel, is grouped.** -/
theorem groups (n : Nat) : Groups n := by
  induction n with
  | zero => exact ⟨nofun, nofun, nofun, nofun⟩
  | succ n ih =>
      exact ⟨readAlternatives_groups ih, readSequence_groups ih, readGroup_groups ih,
        readBody_groups ih⟩

end

theorem isGrouped_of_parseWith {flags : Flags} {pattern : Text} {program : Program}
    (h : parseWith flags pattern = .ok program) : IsGrouped pattern := by
  unfold parseWith at h
  obtain ⟨⟨node, r⟩, halternatives, h⟩ := bind_eq_ok.mp h
  have hall := (groups _).alternatives halternatives
  dsimp only at h
  split at h
  · next hend => rwa [List.isEmpty_iff.mp hend] at hall
  · cases h

/-- A pattern that can be read can be read under some flags at the first attempt. -/
theorem exists_parseWith {flags : Flags} {pattern : Text} {program : Program}
    (h : parse flags pattern = .ok program) : ∃ flags', parseWith flags' pattern = .ok program := by
  unfold parse at h
  generalize 3 = n at h
  induction n generalizing flags with
  | zero =>
      unfold parseAgain at h
      split at h
      · cases h
        exact ⟨flags, by assumption⟩
      · cases h
      · cases h
  | succ n ih =>
      unfold parseAgain at h
      split at h
      · cases h
        exact ⟨flags, by assumption⟩
      · cases h
      · exact ih h

/-- **What can be read is grouped.** -/
theorem isGrouped_of_parse {flags : Flags} {pattern : Text} {program : Program}
    (h : parse flags pattern = .ok program) : IsGrouped pattern := by
  obtain ⟨flags', h⟩ := exists_parseWith h
  exact isGrouped_of_parseWith h

end SecretScan.Regex
