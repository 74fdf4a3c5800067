import SecretScan.Proofs.Pattern.Settled

/-!
# Forms in a pattern

Conversion looks for three forms at a `(` that is syntax: a named opener, a flag marker, and the
opener of a closed group with scoped flags. Here is said when a pattern has one, by its tokens and
the text from them on; the parsers find exactly these (`namedIn_iff`, `markerIn_iff`,
`scopedSpan_eq_some_iff`).

Behind its `(` each form is flat: nothing in it is a parenthesis that opens a group, and all of it
is plain. So no form begins within another one (`syntaxAt_flat`).
-/

namespace SecretScan.Pattern

/-! ## Named openers -/

/-- `NamedIn p name`: an opener `(?P<name>` stands in `p` as syntax. -/
def NamedIn (p name : Text) : Prop :=
  IsGroupName name ∧ ∃ rest, SyntaxAt p ('(' :: '?' :: 'P' :: '<' :: (name ++ '>' :: rest))

theorem namedIn_iff {p name : Text} :
    NamedIn p name ↔ ∃ r, SyntaxAt p r ∧ namedOpener? r = some name := by
  constructor
  · rintro ⟨hname, rest, hp⟩
    exact ⟨_, hp, namedOpener?_eq_some_iff.mpr ⟨hname, rest, rfl⟩⟩
  · rintro ⟨r, hp, hr⟩
    obtain ⟨hname, rest, rfl⟩ := namedOpener?_eq_some_iff.mp hr
    exact ⟨hname, rest, hp⟩

/-! ## Flag markers -/

/-- `MarkerIn p letters`: a flag marker with these letters stands in `p` as syntax. -/
def MarkerIn (p : Text) (letters : List Char) : Prop :=
  letters ≠ [] ∧ (∀ c ∈ letters, isMarkerLetter c = true)
    ∧ ∃ rest, SyntaxAt p ('(' :: '?' :: (letters ++ ')' :: rest))

theorem markerIn_iff {p : Text} {letters : List Char} :
    MarkerIn p letters ↔ ∃ r n, SyntaxAt p r ∧ flagMarker? r = some (letters, n) := by
  constructor
  · rintro ⟨hne, hletters, rest, hp⟩
    exact ⟨_, _, hp, flagMarker?_eq_some_iff.mpr ⟨hne, hletters, rfl, rest, rfl⟩⟩
  · rintro ⟨r, n, hp, hr⟩
    obtain ⟨hne, hletters, -, rest, rfl⟩ := flagMarker?_eq_some_iff.mp hr
    exact ⟨hne, hletters, rest, hp⟩

/-! ## Scoped openers -/

/-- The flags of a scoped opener: letters, and at least one of them. -/
def AreScoped (on off : List Char) : Prop :=
  (∀ c ∈ on, isMarkerLetter c = true) ∧ (∀ c ∈ off, isMarkerLetter c = true)
    ∧ (on ≠ [] ∨ off ≠ [])

/-- `ScopedIn p on off rest`: an opener with these flags stands in `p` as syntax, in front of
`rest`, and its group is closed. -/
def ScopedIn (p : Text) (on off : List Char) (rest : Text) : Prop :=
  AreScoped on off ∧ ∃ t ∈ tokens p, t.kind = .char
    ∧ p.drop t.index = '(' :: '?' :: (on ++ (switchOff off ++ ':' :: rest))
    ∧ (groupEnd? p t.index).isSome = true

theorem scopedIn_iff {p : Text} {on off : List Char} {rest : Text} : ScopedIn p on off rest ↔
    AreScoped on off ∧ SyntaxAt p ('(' :: '?' :: (on ++ (switchOff off ++ ':' :: rest)))
      ∧ (groupEnd? ('(' :: '?' :: (on ++ (switchOff off ++ ':' :: rest))) 0).isSome = true := by
  -- where a group is closed is told by the text behind its `(` only
  have hend : ∀ (i : Nat) {r : Text}, p.drop i = r →
      (groupEnd? p i).isSome = (groupEnd? r 0).isSome := by
    rintro i r rfl
    rw [groupEnd?_isSome, groupEnd?_isSome, List.drop_drop]
  constructor
  · rintro ⟨hflags, t, ht, hkind, hr, hclosed⟩
    rw [hend _ hr] at hclosed
    exact ⟨hflags, ⟨t, ht, hkind, hr.symm⟩, hclosed⟩
  · rintro ⟨hflags, ⟨t, ht, hkind, hr⟩, hclosed⟩
    rw [← hend _ hr.symm] at hclosed
    exact ⟨hflags, t, ht, hkind, hr.symm, hclosed⟩

theorem scopedSpan_eq_some_iff {r : Text} {span : Span (List Char)} : scopedSpan r = some span ↔
    ∃ on off rest, AreScoped on off ∧ r = '(' :: '?' :: (on ++ (switchOff off ++ ':' :: rest))
      ∧ (groupEnd? r 0).isSome = true
      ∧ span = ⟨['('], on.length + (switchOff off).length + 3, on⟩ := by
  constructor
  · intro h
    obtain ⟨opener, hopener, rfl⟩ := eq_of_scopedSpan h
    obtain ⟨hon, hoff, hlen, rest, hr⟩ := scopedOpener?_eq_some_iff.mp hopener
    simp only [scopedSpan, hopener] at h
    split at h
    · next hcond =>
        rw [Bool.and_eq_true, Bool.or_eq_true, decide_eq_true_eq, decide_eq_true_eq] at hcond
        exact ⟨opener.on, opener.off, rest, ⟨hon, hoff, hcond.1⟩, hr, hcond.2, by rw [hlen]⟩
    · cases h
  · rintro ⟨on, off, rest, ⟨hon, hoff, hflags⟩, hr, hclosed, rfl⟩
    have hopener : scopedOpener? r = some ⟨on, off, on.length + (switchOff off).length + 3⟩ :=
      scopedOpener?_eq_some_iff.mpr ⟨hon, hoff, rfl, rest, hr⟩
    simp only [scopedSpan, hopener, hclosed, Bool.and_true]
    rw [if_pos (by simpa using hflags)]

/-! ## Flat text -/

/-- Plain text in which no group is opened. -/
def Flat (t : Text) : Prop :=
  ∀ c ∈ t, IsPlain c ∧ c ≠ '('

theorem Flat.of_inert {t : Text} (h : ∀ c ∈ t, IsInert c) : Flat t :=
  fun c hc => ⟨(h c hc).1, (h c hc).2.1⟩

/-- No group is opened within flat text. -/
theorem syntaxAt_flat {a s r : Text} (ha : Flat a) :
    SyntaxAt (a ++ s) ('(' :: r) ↔ SyntaxAt s ('(' :: r) := by
  induction a with
  | nil => rfl
  | cons c a ih =>
      obtain ⟨hc, hopen⟩ := ha c List.mem_cons_self
      rw [List.cons_append, syntaxAt_cons hc, ih fun d hd => ha d (List.mem_cons_of_mem c hd)]
      exact or_iff_right fun h => hopen (List.cons.inj h).1.symm

theorem isInert_switchOff {off : List Char} (h : ∀ c ∈ off, isMarkerLetter c = true) :
    ∀ c ∈ switchOff off, IsInert c := by
  cases off with
  | nil => nofun
  | cons d off =>
      refine List.forall_mem_cons.mpr ⟨by decide, fun c hc => ?_⟩
      exact isInert_of_isMarkerLetter (h c hc)

/-- What a flag marker has behind its `(`. -/
def markerBody (letters : List Char) : Text :=
  '?' :: (letters ++ [')'])

theorem markerBody_append (letters : List Char) (rest : Text) :
    markerBody letters ++ rest = '?' :: (letters ++ ')' :: rest) := by
  simp [markerBody]

theorem flat_markerBody {letters : List Char} (h : ∀ c ∈ letters, isMarkerLetter c = true) :
    Flat (markerBody letters) := by
  have hletters : Flat letters := .of_inert fun c hc => isInert_of_isMarkerLetter (h c hc)
  refine List.forall_mem_cons.mpr ⟨by decide, List.forall_mem_append.mpr ⟨hletters, ?_⟩⟩
  exact List.forall_mem_singleton.mpr (by decide)

theorem markerIn_iff_body {p : Text} {letters : List Char} : MarkerIn p letters ↔
    letters ≠ [] ∧ (∀ c ∈ letters, isMarkerLetter c = true)
      ∧ ∃ rest, SyntaxAt p ('(' :: (markerBody letters ++ rest)) := by
  simp only [markerBody_append]
  rfl

/-- What a scoped opener has behind its `(`. -/
def scopedBody (on off : List Char) : Text :=
  '?' :: (on ++ (switchOff off ++ [':']))

theorem scopedBody_append (on off : List Char) (rest : Text) :
    scopedBody on off ++ rest = '?' :: (on ++ (switchOff off ++ ':' :: rest)) := by
  simp [scopedBody]

theorem scopedIn_iff_body {p : Text} {on off : List Char} {rest : Text} : ScopedIn p on off rest ↔
    AreScoped on off ∧ SyntaxAt p ('(' :: (scopedBody on off ++ rest))
      ∧ (groupEnd? ('(' :: (scopedBody on off ++ rest)) 0).isSome = true := by
  rw [scopedBody_append]
  exact scopedIn_iff

theorem length_scopedBody (on off : List Char) :
    (scopedBody on off).length + 1 = on.length + (switchOff off).length + 3 := by
  simp only [scopedBody, List.length_cons, List.length_append, List.length_nil]
  omega

theorem AreScoped.isInert {on off : List Char} (h : AreScoped on off) :
    ∀ c ∈ scopedBody on off, IsInert c := by
  obtain ⟨hon, hoff, -⟩ := h
  have hcolon : ∀ c ∈ [':'], IsInert c := isInert_of_all (by decide)
  have hbehind := List.forall_mem_append.mpr ⟨isInert_switchOff hoff, hcolon⟩
  have hletters : ∀ c ∈ on, IsInert c := fun c hc => isInert_of_isMarkerLetter (hon c hc)
  exact List.forall_mem_cons.mpr ⟨by decide, List.forall_mem_append.mpr ⟨hletters, hbehind⟩⟩

/-- What a named opener has behind its `(`, long or short. -/
theorem flat_named {front name : Text} (hfront : Flat front)
    (hname : ∀ c ∈ name, isNameChar c = true) : Flat (front ++ (name ++ ['>'])) := by
  have hchars : Flat name := .of_inert fun c hc => isInert_of_isNameChar (hname c hc)
  have hlast : Flat ['>'] := .of_inert (isInert_of_all (by decide))
  exact List.forall_mem_append.mpr ⟨hfront, List.forall_mem_append.mpr ⟨hchars, hlast⟩⟩

end SecretScan.Pattern
