import SecretScan.Proofs.Pattern.Correspondence

/-!
# Flags that a pattern asks for

A pattern asks for flags by markers and by groups with scoped flags. Conversion gathers them in
three passes, each over what the one before it has left: the header, the scoped openers, the
markers. So a pass may hide a marker from the next one, or leave one that was not there.

None hides any. Shortening named openers and removing the header leave all other forms where they
are (`markerLetter_named`, `scopedIn_named`, `markerLetter_header`, `scopedIn_header`), and opening
a scoped group leaves all markers (`markerLetter_promoted`). A new marker comes about in one way
only: a scoped opener goes, and behind it stands a `?`, as in `(?s:?i)`.
-/

namespace SecretScan.Pattern

/-! ## Sets of flags -/

namespace FlagSet

theorem mem_insert {c letter : Char} {flags : FlagSet} :
    c ∈ insert letter flags ↔ c = letter ∨ c ∈ flags := by
  induction flags with
  | nil => simp [insert]
  | cons d flags ih =>
      rw [insert]
      split
      · next h => simp [h]
      · split
        · exact List.mem_cons
        · rw [List.mem_cons, ih, List.mem_cons]
          exact or_left_comm

theorem mem_insertAll {c : Char} {letters : List Char} {flags : FlagSet} :
    c ∈ insertAll letters flags ↔ c ∈ letters ∨ c ∈ flags := by
  induction letters generalizing flags with
  | nil => simp [insertAll]
  | cons d letters ih =>
      have hstep : insertAll (d :: letters) flags = insertAll letters (insert d flags) := rfl
      rw [hstep, ih, mem_insert, List.mem_cons, or_assoc]
      exact or_left_comm

end FlagSet

theorem mem_mergeFlags {c : Char} {letters : List Char} {flags : FlagSet} :
    c ∈ mergeFlags letters flags ↔ (c ∈ letters ∧ c ∈ ['i', 'm', 's']) ∨ c ∈ flags := by
  rw [mergeFlags, FlagSet.mem_insertAll, List.mem_filter]
  simp [or_assoc]

/-! ## What is asked for -/

/-- A letter of a flag marker. -/
def MarkerLetter (p : Text) (c : Char) : Prop :=
  ∃ letters, MarkerIn p letters ∧ c ∈ letters

/-- A letter that a closed group switches on. -/
def ScopedLetter (p : Text) (c : Char) : Prop :=
  ∃ on off rest, ScopedIn p on off rest ∧ c ∈ on

/-- A letter of the flag marker at the very front. -/
def HeaderLetter (p : Text) (c : Char) : Prop :=
  ∃ letters n, flagMarker? p = some (letters, n) ∧ c ∈ letters

/-- The flags that a pattern asks for. A group cannot ask for `m`. -/
inductive Requested (p : Text) : Char → Prop where
  | always : Requested p 'g'
  | byMarker {c : Char} : MarkerLetter p c → c ∈ ['i', 'm', 's'] → Requested p c
  | byGroup {c : Char} : ScopedLetter p c → c ∈ ['i', 's'] → Requested p c

/-- Behind no opener of a closed group with scoped flags stands a `?`. -/
def Unmistakable (p : Text) : Prop :=
  ∀ on off rest, ScopedIn p on off rest → rest.head? ≠ some '?'

/-! ## What the passes note -/

theorem flagSpan_opens : Opens flagSpan := by
  intro s span h
  obtain ⟨⟨letters, n⟩, hmarker, rfl⟩ := Option.map_eq_some_iff.mp h
  obtain ⟨-, hletters, rfl, rest, rfl⟩ := eq_of_flagMarker? hmarker
  refine ⟨markerBody letters, rest, ?_, flat_markerBody hletters, ?_⟩
  · rw [markerBody_append]
  · simp [markerBody]

theorem scopedSpan_reopens : Reopens scopedSpan where
  opens := by
    intro s span h
    obtain ⟨on, off, rest, hflags, rfl, -, rfl⟩ := scopedSpan_eq_some_iff.mp h
    refine ⟨scopedBody on off, rest, ?_, .of_inert hflags.isInert, ?_⟩
    · rw [scopedBody_append]
    · exact (length_scopedBody on off).symm
  out := by
    intro s span h
    obtain ⟨on, off, rest, -, -, -, rfl⟩ := scopedSpan_eq_some_iff.mp h
    exact ⟨[], rfl, List.forall_mem_nil _⟩

theorem namedSpan_reopens : Reopens namedSpan where
  opens := by
    intro s span h
    obtain ⟨name, hname, rfl⟩ := Option.map_eq_some_iff.mp h
    obtain ⟨hchars, rest, rfl⟩ := eq_of_namedOpener? hname
    have hfront : Flat ['?', 'P', '<'] := .of_inert (isInert_of_all (by decide))
    exact ⟨['?', 'P', '<'] ++ (name ++ ['>']), rest, by simp, flat_named hfront hchars, by simp⟩
  out := by
    intro s span h
    obtain ⟨name, hname, rfl⟩ := Option.map_eq_some_iff.mp h
    obtain ⟨hchars, -⟩ := eq_of_namedOpener? hname
    have hfront : Flat ['?', '<'] := .of_inert (isInert_of_all (by decide))
    exact ⟨['?', '<'] ++ (name ++ ['>']), by simp, flat_named hfront hchars⟩

theorem mem_flagMarkerEdit_notes {q : Text} {c : Char} :
    c ∈ (edit flagMarkerEdit q).2.flatten ↔ MarkerLetter q c := by
  have hnotes : ∀ letters, letters ∈ (edit flagMarkerEdit q).2 ↔ MarkerIn q letters := by
    intro letters
    rw [(edit_rewrites flagMarkerEdit_follows q).mem_notes_iff flagSpan_opens, markerIn_iff]
    constructor
    · rintro ⟨r, span, hr, hspan, rfl⟩
      obtain ⟨⟨letters, n⟩, hmarker, rfl⟩ := Option.map_eq_some_iff.mp hspan
      exact ⟨r, n, hr, hmarker⟩
    · rintro ⟨r, n, hr, hmarker⟩
      exact ⟨r, ⟨[], n, letters⟩, hr, Option.map_eq_some_iff.mpr ⟨_, hmarker, rfl⟩, rfl⟩
  rw [List.mem_flatten]
  exact exists_congr fun letters => by rw [hnotes]

theorem mem_scopedFlagsEdit_notes {q : Text} {c : Char} :
    c ∈ (edit scopedFlagsEdit q).2.flatten ↔ ScopedLetter q c := by
  rw [List.mem_flatten]
  simp only [(edit_rewrites scopedFlagsEdit_follows q).mem_notes_iff scopedSpan_reopens.opens]
  constructor
  · rintro ⟨on, ⟨r, span, hr, hspan, rfl⟩, hc⟩
    obtain ⟨on, off, rest, hflags, rfl, hclosed, rfl⟩ := scopedSpan_eq_some_iff.mp hspan
    exact ⟨on, off, rest, scopedIn_iff.mpr ⟨hflags, hr, hclosed⟩, hc⟩
  · rintro ⟨on, off, rest, hscoped, hc⟩
    obtain ⟨hflags, hr, hclosed⟩ := scopedIn_iff.mp hscoped
    have hspan := scopedSpan_eq_some_iff.mpr ⟨on, off, rest, hflags, rfl, hclosed, rfl⟩
    exact ⟨on, ⟨_, _, hr, hspan, rfl⟩, hc⟩

/-! ## What the passes collect -/

theorem extractHeader_flags (q : Text) :
    (∀ c, c ∈ (extractHeader q).flags ↔ HeaderLetter q c ∧ c ∈ ['i', 'm', 's'])
      ∧ ((extractHeader q).extended = true ↔ HeaderLetter q 'x') := by
  cases hmarker : flagMarker? q with
  | none =>
      have hletter : ∀ c, ¬ HeaderLetter q c := by
        rintro c ⟨letters, n, hsome, -⟩
        rw [hmarker] at hsome
        cases hsome
      simp [extractHeader, hmarker, hletter]
  | some marker =>
      have hletter : ∀ c, HeaderLetter q c ↔ c ∈ marker.1 := by
        intro c
        constructor
        · rintro ⟨letters, n, hsome, hc⟩
          obtain rfl := Option.some.inj (hmarker.symm.trans hsome)
          exact hc
        · exact fun hc => ⟨marker.1, marker.2, hmarker, hc⟩
      simp [extractHeader, hmarker, hletter, mem_mergeFlags]

theorem mem_promoteScopedFlags {q : Text} {flags : FlagSet} {c : Char} :
    c ∈ (promoteScopedFlags q flags).2 ↔ (ScopedLetter q c ∧ c ∈ ['i', 's']) ∨ c ∈ flags := by
  show c ∈ FlagSet.insertAll ((edit scopedFlagsEdit q).2.flatten.filter _) flags ↔ _
  rw [FlagSet.mem_insertAll, List.mem_filter, mem_scopedFlagsEdit_notes]
  simp

theorem extractInlineFlags_flags (q : Text) (flags : FlagSet) :
    (∀ c, c ∈ (extractInlineFlags q flags).flags ↔
        (MarkerLetter q c ∧ c ∈ ['i', 'm', 's']) ∨ c ∈ flags)
      ∧ ((extractInlineFlags q flags).extended = true ↔ MarkerLetter q 'x') := by
  refine ⟨fun c => ?_, ?_⟩
  · show c ∈ mergeFlags (edit flagMarkerEdit q).2.flatten flags ↔ _
    rw [mem_mergeFlags, mem_flagMarkerEdit_notes]
  · show decide ('x' ∈ (edit flagMarkerEdit q).2.flatten) = true ↔ _
    rw [decide_eq_true_eq, mem_flagMarkerEdit_notes]

/-! ## Shortening named openers -/

/-- A form that is no named opener, neither a long nor a short one. -/
def NotNamed (body : Text) : Prop :=
  ∃ d b, body = '?' :: d :: b ∧ d ≠ 'P' ∧ d ≠ '<'

theorem ne_of_isMarkerLetter {c d : Char} (h : isMarkerLetter c = true)
    (hd : isMarkerLetter d = false) : c ≠ d := by
  rintro rfl
  rw [hd] at h
  cases h

theorem notNamed_markerBody {letters : List Char} (h : ∀ c ∈ letters, isMarkerLetter c = true) :
    NotNamed (markerBody letters) := by
  cases letters with
  | nil => exact ⟨')', [], rfl, by decide, by decide⟩
  | cons d letters =>
      have hd := h d List.mem_cons_self
      exact ⟨d, letters ++ [')'], rfl, ne_of_isMarkerLetter hd (by decide),
        ne_of_isMarkerLetter hd (by decide)⟩

theorem notNamed_scopedBody {on off : List Char} (h : AreScoped on off) :
    NotNamed (scopedBody on off) := by
  cases on with
  | cons d on =>
      have hd := h.1 d List.mem_cons_self
      exact ⟨d, on ++ (switchOff off ++ [':']), rfl, ne_of_isMarkerLetter hd (by decide),
        ne_of_isMarkerLetter hd (by decide)⟩
  | nil =>
      cases off with
      | nil => exact ⟨':', [], rfl, by decide, by decide⟩
      | cons d off => exact ⟨'-', d :: off ++ [':'], rfl, by decide, by decide⟩

theorem NotNamed.namedSpan_eq_none {body : Text} (h : NotNamed body) (rest : Text) :
    namedSpan ('(' :: (body ++ rest)) = none := by
  obtain ⟨d, b, rfl, hd, -⟩ := h
  rw [namedSpan, Option.map_eq_none_iff, Option.eq_none_iff_forall_ne_some]
  intro name hname
  obtain ⟨-, rest', hs⟩ := eq_of_namedOpener? hname
  simp only [List.cons_append, List.cons.injEq, true_and] at hs
  exact hd hs.1

theorem NotNamed.ne_out {body r : Text} {span : Span Unit} (h : NotNamed body)
    (hspan : namedSpan r = some span) (rest u : Text) : '(' :: (body ++ rest) ≠ span.out ++ u := by
  obtain ⟨d, b, rfl, -, hd⟩ := h
  obtain ⟨name, -, rfl⟩ := Option.map_eq_some_iff.mp hspan
  intro hs
  simp only [List.cons_append, List.cons.injEq, true_and] at hs
  exact hd hs.1

/-- A form that is no named opener is there before the pass exactly if it is there behind it. -/
theorem shortenNamedGroups_form {p body : Text} (hflat : Flat body) (hbody : NotNamed body) :
    (∀ rest, SyntaxAt p ('(' :: (body ++ rest)) → ∃ rest' notes,
        SyntaxAt (shortenNamedGroups p) ('(' :: (body ++ rest'))
          ∧ Rewrites namedSpan rest rest' notes)
      ∧ ∀ rest', SyntaxAt (shortenNamedGroups p) ('(' :: (body ++ rest')) → ∃ rest notes,
        SyntaxAt p ('(' :: (body ++ rest)) ∧ Rewrites namedSpan rest rest' notes := by
  have hpass := edit_rewrites namedGroupEdit_follows p
  refine ⟨fun rest hp => ?_, fun rest' hp => ?_⟩
  · exact hpass.form namedSpan_reopens hflat (hbody.namedSpan_eq_none rest) hp
  · rcases hpass.form_of_out namedSpan_reopens hflat hp with hin | ⟨r, span, u, _, _, hspan, hs, _⟩
    · exact hin
    · exact absurd hs (hbody.ne_out hspan rest' u)

theorem markerLetter_named {p : Text} {c : Char} :
    MarkerLetter (shortenNamedGroups p) c ↔ MarkerLetter p c := by
  refine exists_congr fun letters => and_congr_left fun _ => ?_
  rw [markerIn_iff_body, markerIn_iff_body]
  refine and_congr_right fun _ => and_congr_right fun hletters => ?_
  obtain ⟨hforth, hback⟩ :=
    @shortenNamedGroups_form p _ (flat_markerBody hletters) (notNamed_markerBody hletters)
  constructor
  · rintro ⟨rest', hrest'⟩
    obtain ⟨rest, _, hrest, -⟩ := hback rest' hrest'
    exact ⟨rest, hrest⟩
  · rintro ⟨rest, hrest⟩
    obtain ⟨rest', _, hrest', -⟩ := hforth rest hrest
    exact ⟨rest', hrest'⟩

/-- An opener that stands somewhere else, in front of text that nests alike. -/
theorem ScopedIn.elsewhere {p p' rest rest' : Text} {on off : List Char}
    (h : ScopedIn p on off rest) (hp' : SyntaxAt p' ('(' :: (scopedBody on off ++ rest')))
    (hrest : SameShape (marks .outside rest' []) (marks .outside rest [])) :
    ScopedIn p' on off rest' := by
  obtain ⟨hflags, -, hclosed⟩ := scopedIn_iff_body.mp h
  have hplain : ∀ c ∈ scopedBody on off, IsPlain c := fun c hc => (hflags.isInert c hc).1
  have hshape := SameShape.append (.refl ((scopedBody on off).map (·, .char))) hrest
  rw [← marks_append_plain hplain, ← marks_append_plain hplain] at hshape
  refine scopedIn_iff_body.mpr ⟨hflags, hp', ?_⟩
  rw [groupEnd?_isSome] at hclosed ⊢
  exact (congrArg Option.isNone (hshape.nesting 0)).trans hclosed

theorem scopedIn_named {p : Text} {on off : List Char} :
    (∀ rest, ScopedIn p on off rest →
        ∃ rest', ScopedIn (shortenNamedGroups p) on off rest' ∧ rest'.head? = rest.head?)
      ∧ ∀ rest', ScopedIn (shortenNamedGroups p) on off rest' →
        ∃ rest, ScopedIn p on off rest ∧ rest'.head? = rest.head? := by
  refine ⟨fun rest h => ?_, fun rest' h => ?_⟩
  · obtain ⟨hflags, hp, -⟩ := scopedIn_iff_body.mp h
    obtain ⟨hforth, -⟩ :=
      @shortenNamedGroups_form p _ (.of_inert hflags.isInert) (notNamed_scopedBody hflags)
    obtain ⟨rest', notes, hp', hrest⟩ := hforth rest hp
    have hshape := hrest.sameShape namedSpan_neutral
    exact ⟨rest', h.elsewhere hp' hshape, hrest.head? namedSpan_reopens⟩
  · obtain ⟨hflags, hp, -⟩ := scopedIn_iff_body.mp h
    obtain ⟨-, hback⟩ :=
      @shortenNamedGroups_form p _ (.of_inert hflags.isInert) (notNamed_scopedBody hflags)
    obtain ⟨rest, notes, hp', hrest⟩ := hback rest' hp
    have hshape := hrest.sameShape namedSpan_neutral
    exact ⟨rest, h.elsewhere hp' hshape.symm, hrest.head? namedSpan_reopens⟩

/-! ## Removing the header -/

/-- No flag marker is the opener of a group. -/
theorem markerBody_ne_scopedBody {letters on off : List Char}
    (hletters : ∀ c ∈ letters, isMarkerLetter c = true) (h : AreScoped on off) (rest rest' : Text) :
    markerBody letters ++ rest ≠ scopedBody on off ++ rest' := by
  rw [markerBody_append, scopedBody_append]
  intro heq
  have htail := (List.cons.inj heq).2
  -- the letters end where a character comes that is none
  have hstop : ∃ d r, switchOff off ++ ':' :: rest' = d :: r ∧ d ≠ ')'
      ∧ isMarkerLetter d = false := by
    cases off with
    | nil => exact ⟨':', rest', rfl, by decide, by decide⟩
    | cons e off => exact ⟨'-', e :: off ++ ':' :: rest', rfl, by decide, by decide⟩
  obtain ⟨d, r, hbehind, hd, hstop⟩ := hstop
  rw [hbehind] at htail
  have htake := congrArg (List.takeWhile isMarkerLetter) htail
  rw [takeWhile_append_cons hletters (by decide), takeWhile_append_cons h.1 hstop] at htake
  rw [htake] at htail
  exact hd (List.cons.inj (List.append_cancel_left htail)).1.symm

/-- A pattern without a header, or a header and what follows. -/
theorem extractHeader_cases (q : Text) :
    (flagMarker? q = none ∧ extractHeader q = ⟨q, [], false⟩)
      ∨ ∃ letters, (∀ c ∈ letters, isMarkerLetter c = true)
        ∧ flagMarker? q = some (letters, letters.length + 3)
        ∧ q = '(' :: (markerBody letters ++ (extractHeader q).pattern) := by
  cases hmarker : flagMarker? q with
  | none =>
      refine .inl ⟨rfl, ?_⟩
      rw [extractHeader, hmarker]
  | some marker =>
      obtain ⟨letters, n⟩ := marker
      obtain ⟨-, hletters, rfl, rest, rfl⟩ := eq_of_flagMarker? hmarker
      refine .inr ⟨letters, hletters, rfl, ?_⟩
      have hdrop : (extractHeader ('(' :: '?' :: (letters ++ ')' :: rest))).pattern = rest := by
        rw [extractHeader, hmarker]
        simp
      rw [hdrop, markerBody_append]

/-- The groups of a pattern are the header and those of what follows. -/
theorem syntaxAt_header {letters : List Char} (hletters : ∀ c ∈ letters, isMarkerLetter c = true)
    {s r : Text} : SyntaxAt ('(' :: (markerBody letters ++ s)) ('(' :: r) ↔
      '(' :: r = '(' :: (markerBody letters ++ s) ∨ SyntaxAt s ('(' :: r) := by
  rw [syntaxAt_cons (by decide), syntaxAt_flat (flat_markerBody hletters)]

theorem markerLetter_header {q : Text} {c : Char} :
    MarkerLetter q c ↔ HeaderLetter q c ∨ MarkerLetter (extractHeader q).pattern c := by
  rcases extractHeader_cases q with ⟨hnone, hheader⟩ | ⟨letters, hletters, hmarker, hq⟩
  · rw [hheader, HeaderLetter, hnone]
    simp
  · generalize (extractHeader q).pattern = s at hq
    constructor
    · rintro ⟨found, hfound, hc⟩
      obtain ⟨hne, hall, rest, hp⟩ := hfound
      rw [hq, syntaxAt_header hletters] at hp
      rcases hp with hfront | hbehind
      · rw [← hq] at hfront
        exact .inl ⟨found, _, flagMarker?_eq_some_iff.mpr ⟨hne, hall, rfl, rest, hfront.symm⟩, hc⟩
      · exact .inr ⟨found, ⟨hne, hall, rest, hbehind⟩, hc⟩
    · rintro (⟨found, n, hfound, hc⟩ | ⟨found, ⟨hne, hall, rest, hp⟩, hc⟩)
      · obtain ⟨hne, hall, -, rest, hfront⟩ := flagMarker?_eq_some_iff.mp hfound
        refine ⟨found, ⟨hne, hall, rest, ?_⟩, hc⟩
        rw [hq, syntaxAt_header hletters, ← hq]
        exact .inl hfront.symm
      · refine ⟨found, ⟨hne, hall, rest, ?_⟩, hc⟩
        rw [hq, syntaxAt_header hletters]
        exact .inr hp

theorem scopedIn_header {q : Text} {on off : List Char} {rest : Text} :
    ScopedIn q on off rest ↔ ScopedIn (extractHeader q).pattern on off rest := by
  rcases extractHeader_cases q with ⟨-, hheader⟩ | ⟨letters, hletters, -, hq⟩
  · rw [hheader]
  · generalize (extractHeader q).pattern = s at hq
    rw [scopedIn_iff_body, scopedIn_iff_body, hq]
    refine and_congr_right fun hflags => and_congr_left fun _ => ?_
    rw [syntaxAt_header hletters]
    refine or_iff_right fun hfront => ?_
    exact markerBody_ne_scopedBody hletters hflags s rest (List.cons.inj hfront).2.symm

/-! ## Opening scoped groups -/

theorem markerLetter_promoted {q : Text} {c : Char} (flags : FlagSet) (h : MarkerLetter q c) :
    MarkerLetter (promoteScopedFlags q flags).1 c := by
  obtain ⟨letters, hmarker, hc⟩ := h
  obtain ⟨hne, hletters, rest, hp⟩ := markerIn_iff_body.mp hmarker
  -- a marker is no opener, so the pass copies it
  have hnone : scopedSpan ('(' :: (markerBody letters ++ rest)) = none := by
    rw [Option.eq_none_iff_forall_ne_some]
    intro span hspan
    obtain ⟨on, off, rest', hflags, hs, -⟩ := scopedSpan_eq_some_iff.mp hspan
    rw [← scopedBody_append] at hs
    exact markerBody_ne_scopedBody hletters hflags rest rest' (List.cons.inj hs).2
  have hpass := edit_rewrites scopedFlagsEdit_follows q
  obtain ⟨rest', -, hp', -⟩ := hpass.form scopedSpan_reopens (flat_markerBody hletters) hnone hp
  exact ⟨letters, markerIn_iff_body.mpr ⟨hne, hletters, rest', hp'⟩, hc⟩

/-- **A new marker comes about only where a `?` stands behind an opener.** -/
theorem markerLetter_of_promoted {q : Text} {c : Char} {flags : FlagSet} (hq : Unmistakable q)
    (h : MarkerLetter (promoteScopedFlags q flags).1 c) : MarkerLetter q c := by
  obtain ⟨letters, hmarker, hc⟩ := h
  obtain ⟨hne, hletters, rest', hp⟩ := markerIn_iff_body.mp hmarker
  have hpass := edit_rewrites scopedFlagsEdit_follows q
  rcases hpass.form_of_out scopedSpan_reopens (flat_markerBody hletters) hp with
    ⟨rest, -, hrest, -⟩ | ⟨r, span, u, notes, hr, hspan, hs, hrest⟩
  · exact ⟨letters, markerIn_iff_body.mpr ⟨hne, hletters, rest, hrest⟩, hc⟩
  · obtain ⟨on, off, rest, hflags, rfl, hclosed, rfl⟩ := scopedSpan_eq_some_iff.mp hspan
    have hdrop : ('(' :: '?' :: (on ++ (switchOff off ++ ':' :: rest))).drop
        (on.length + (switchOff off).length + 3) = rest := by
      rw [← scopedBody_append, ← length_scopedBody]
      exact List.drop_left
    rw [hdrop] at hrest
    -- what the pass copies behind the opener begins with the `?` of the marker
    obtain rfl : u = markerBody letters ++ rest' := (List.cons.inj hs).2.symm
    have hhead := hrest.head? scopedSpan_reopens
    exact absurd hhead.symm (hq on off rest (scopedIn_iff.mpr ⟨hflags, hr, hclosed⟩))

/-! ## The flags of a converted pattern -/

/-- What the pass for markers reads, and the flags collected before it. -/
def promoted (p : Text) : Text × FlagSet :=
  promoteScopedFlags (extractHeader (shortenNamedGroups p)).pattern
    (extractHeader (shortenNamedGroups p)).flags

theorem scopedLetter_passed {p : Text} {c : Char} :
    ScopedLetter (extractHeader (shortenNamedGroups p)).pattern c ↔ ScopedLetter p c := by
  constructor
  · rintro ⟨on, off, rest, h, hc⟩
    obtain ⟨rest', h', -⟩ := scopedIn_named.2 rest (scopedIn_header.mpr h)
    exact ⟨on, off, rest', h', hc⟩
  · rintro ⟨on, off, rest, h, hc⟩
    obtain ⟨rest', h', -⟩ := scopedIn_named.1 rest h
    exact ⟨on, off, rest', scopedIn_header.mp h', hc⟩

theorem Unmistakable.passed {p : Text} (h : Unmistakable p) :
    Unmistakable (extractHeader (shortenNamedGroups p)).pattern := by
  intro on off rest hscoped
  obtain ⟨rest', hscoped', hhead⟩ := scopedIn_named.2 rest (scopedIn_header.mpr hscoped)
  rw [hhead]
  exact h on off rest' hscoped'

theorem markerLetter_passed {p : Text} {c : Char} (h : MarkerLetter p c) :
    HeaderLetter (shortenNamedGroups p) c ∨ MarkerLetter (promoted p).1 c := by
  rcases markerLetter_header.mp (markerLetter_named.mpr h) with hheader | hbehind
  · exact .inl hheader
  · exact .inr (markerLetter_promoted _ hbehind)

theorem markerLetter_of_passed {p : Text} {c : Char} (hp : Unmistakable p)
    (h : HeaderLetter (shortenNamedGroups p) c ∨ MarkerLetter (promoted p).1 c) :
    MarkerLetter p c := by
  refine markerLetter_named.mp (markerLetter_header.mpr ?_)
  rcases h with hheader | hbehind
  · exact .inl hheader
  · exact .inr (markerLetter_of_promoted hp.passed hbehind)

theorem mem_convertUncommented_flags {p : Text} {c : Char} :
    c ∈ (convertUncommented p).flags ↔ c = 'g' ∨ (ScopedLetter p c ∧ c ∈ ['i', 's'])
      ∨ ((HeaderLetter (shortenNamedGroups p) c ∨ MarkerLetter (promoted p).1 c)
        ∧ c ∈ ['i', 'm', 's']) := by
  have hbefore : c ∈ (promoted p).2 ↔ (ScopedLetter p c ∧ c ∈ ['i', 's'])
      ∨ (HeaderLetter (shortenNamedGroups p) c ∧ c ∈ ['i', 'm', 's']) := by
    rw [promoted, mem_promoteScopedFlags, scopedLetter_passed, (extractHeader_flags _).1]
  show c ∈ FlagSet.insert 'g' (extractInlineFlags (promoted p).1 (promoted p).2).flags ↔ _
  rw [FlagSet.mem_insert, (extractInlineFlags_flags _ _).1, hbefore, or_and_right]
  exact or_congr_right (or_comm.trans or_assoc)

theorem convertUncommented_extended {p : Text} : (convertUncommented p).extended = true ↔
    HeaderLetter (shortenNamedGroups p) 'x' ∨ MarkerLetter (promoted p).1 'x' := by
  show ((extractHeader (shortenNamedGroups p)).extended
    || (extractInlineFlags (promoted p).1 (promoted p).2).extended) = true ↔ _
  rw [Bool.or_eq_true, (extractHeader_flags _).2, (extractInlineFlags_flags _ _).2]

/--
**Conversion collects exactly the flags that are asked for.**

Every flag that a marker or a closed group asks for is there, and free-spacing mode is on if a
marker has an `x`. Nothing else is there if no opener of a closed group can be mistaken.
-/
theorem convertUncommented_flags (p : Text) :
    ((∀ c, Requested p c → c ∈ (convertUncommented p).flags)
        ∧ (MarkerLetter p 'x' → (convertUncommented p).extended = true))
      ∧ (Unmistakable p →
        (∀ c, c ∈ (convertUncommented p).flags ↔ Requested p c)
          ∧ ((convertUncommented p).extended = true ↔ MarkerLetter p 'x')) := by
  have hcollects : ∀ c, Requested p c → c ∈ (convertUncommented p).flags := by
    intro c hc
    rw [mem_convertUncommented_flags]
    cases hc with
    | always => exact .inl rfl
    | byMarker hmarker hmem => exact .inr (.inr ⟨markerLetter_passed hmarker, hmem⟩)
    | byGroup hgroup hmem => exact .inr (.inl ⟨hgroup, hmem⟩)
  have hextends : MarkerLetter p 'x' → (convertUncommented p).extended = true :=
    fun hx => convertUncommented_extended.mpr (markerLetter_passed hx)
  refine ⟨⟨hcollects, hextends⟩, fun hp => ⟨fun c => ⟨fun hc => ?_, hcollects c⟩, ?_⟩⟩
  · rcases mem_convertUncommented_flags.mp hc with rfl | ⟨hgroup, hmem⟩ | ⟨hmarker, hmem⟩
    · exact .always
    · exact .byGroup hgroup hmem
    · exact .byMarker (markerLetter_of_passed hp hmarker) hmem
  · exact ⟨fun hx => markerLetter_of_passed hp (convertUncommented_extended.mp hx), hextends⟩

/-- A flag that nobody asked for: behind the opener stands `?i`, and that becomes a marker. -/
example : (convertUncommented "(?s:?i)".toList).flags = ['g', 'i', 's'] := by
  decide +kernel

end SecretScan.Pattern
