import Mathlib.Data.List.TakeWhile
import SecretScan.Pattern.Native
import SecretScan.Proofs.Pattern.Nesting

/-!
# Openers and markers

Three forms at the front of a text are read by the passes that bring a pattern into native form: a
flag marker `(?imsux)`, an opener with scoped flags `(?on-off:`, and a named opener `(?P<name>`.
For each there is a lemma that says what stands there exactly if the form is read. The letters and
names in them are inert: plain, and no parentheses.
-/

namespace SecretScan.Pattern

/-- A run of characters and what stops it. -/
theorem eq_takeWhile_append {p : Char → Bool} {s r : Text} {c : Char}
    (h : s.drop (s.takeWhile p).length = c :: r) : s = s.takeWhile p ++ c :: r := by
  have hs := List.prefix_iff_eq_append.mp (List.takeWhile_prefix (l := s) p)
  rw [h] at hs
  exact hs.symm

/-- A run of characters ends where one comes that is not in the class. -/
theorem takeWhile_append_cons {p : Char → Bool} {s : Text} {c : Char} (hs : ∀ d ∈ s, p d = true)
    (hc : p c = false) (r : Text) : (s ++ c :: r).takeWhile p = s := by
  rw [List.takeWhile_append_of_pos hs, List.takeWhile_cons_of_neg (by simp [hc]), List.append_nil]

theorem isInert_of_isMarkerLetter {c : Char} (h : isMarkerLetter c = true) : IsInert c :=
  isInert_of_class h (by decide)

theorem isInert_of_isNameChar {c : Char} (h : isNameChar c = true) : IsInert c :=
  isInert_of_class h (by decide)

/-- A flag marker is `(?`, at least one letter, and `)`. -/
theorem eq_of_flagMarker? {s : Text} {letters : List Char} {n : Nat}
    (h : flagMarker? s = some (letters, n)) :
    letters ≠ [] ∧ (∀ c ∈ letters, isMarkerLetter c = true) ∧ n = letters.length + 3
      ∧ ∃ rest, s = '(' :: '?' :: (letters ++ ')' :: rest) := by
  unfold flagMarker? at h
  split at h
  · next s =>
      dsimp only at h
      split at h
      · next c cs rest hl hr =>
          obtain ⟨rfl, rfl⟩ := Prod.mk.inj (Option.some.inj h)
          refine ⟨?_, fun c hc => List.mem_takeWhile_imp hc, rfl, rest, ?_⟩
          · rw [hl]
            exact List.cons_ne_nil c cs
          · exact congrArg (fun t => '(' :: '?' :: t) (eq_takeWhile_append hr)
      · cases h
  · cases h

theorem flagMarker?_eq_some_iff {s : Text} {letters : List Char} {n : Nat} :
    flagMarker? s = some (letters, n) ↔
      letters ≠ [] ∧ (∀ c ∈ letters, isMarkerLetter c = true) ∧ n = letters.length + 3
        ∧ ∃ rest, s = '(' :: '?' :: (letters ++ ')' :: rest) := by
  refine ⟨eq_of_flagMarker?, ?_⟩
  rintro ⟨hne, hletters, rfl, rest, rfl⟩
  obtain ⟨c, cs, rfl⟩ := List.exists_cons_of_ne_nil hne
  have htake := takeWhile_append_cons hletters (c := ')') (by decide) rest
  simp only [flagMarker?, htake, List.drop_left]

/-- How flags are written that a group switchOffes off. -/
def switchOff : List Char → Text
  | [] => []
  | c :: cs => '-' :: c :: cs

/-- A scoped opener is `(?`, letters, perhaps a `-` and letters, and `:`. -/
theorem scopedOpener?_eq_some_iff {s : Text} {o : ScopedOpener} : scopedOpener? s = some o ↔
    (∀ c ∈ o.on, isMarkerLetter c = true) ∧ (∀ c ∈ o.off, isMarkerLetter c = true)
      ∧ o.length = o.on.length + (switchOff o.off).length + 3
      ∧ ∃ rest, s = '(' :: '?' :: (o.on ++ (switchOff o.off ++ ':' :: rest)) := by
  constructor
  · intro h
    unfold scopedOpener? at h
    split at h
    · next s =>
        dsimp only at h
        split at h
        · next rest hr =>
            obtain rfl := Option.some.inj h
            refine ⟨fun c hc => List.mem_takeWhile_imp hc, by simp, rfl, rest, ?_⟩
            exact congrArg (fun t => '(' :: '?' :: t) (eq_takeWhile_append hr)
        · next s' hr =>
            split at h
            · next c cs rest hl hr' =>
                obtain rfl := Option.some.inj h
                have hswitch : switchOff (s'.takeWhile isMarkerLetter)
                    = '-' :: s'.takeWhile isMarkerLetter := by
                  rw [hl, switchOff]
                refine ⟨fun c hc => List.mem_takeWhile_imp hc,
                  fun c hc => List.mem_takeWhile_imp hc, ?_, rest, ?_⟩
                · rw [hswitch, List.length_cons]
                  exact congrArg (· + 3) (Nat.add_assoc _ _ 1)
                · rw [hswitch, List.cons_append, ← eq_takeWhile_append hr']
                  exact congrArg (fun t => '(' :: '?' :: t) (eq_takeWhile_append hr)
            · cases h
        · cases h
    · cases h
  · obtain ⟨on, off, n⟩ := o
    rintro ⟨hon, hoff, hlen, rest, rfl⟩
    dsimp only at hon hoff hlen ⊢
    cases off with
    | nil =>
        obtain rfl : n = on.length + 3 := hlen
        have htake := takeWhile_append_cons hon (c := ':') (by decide) rest
        simp only [scopedOpener?, switchOff, List.nil_append, htake, List.drop_left]
    | cons c cs =>
        obtain rfl : n = on.length + (c :: cs).length + 4 := by
          rw [hlen, switchOff, List.length_cons]
          omega
        have hswitch : on ++ (switchOff (c :: cs) ++ ':' :: rest)
            = on ++ '-' :: (c :: cs ++ ':' :: rest) := rfl
        have htake := takeWhile_append_cons hon (c := '-') (by decide) (c :: cs ++ ':' :: rest)
        have htake' := takeWhile_append_cons hoff (c := ':') (by decide) rest
        simp only [hswitch, scopedOpener?, htake, List.drop_left, htake']

/-- What a scoped opener stands for; the flags that it switches off may be missing. -/
theorem eq_of_scopedOpener? {s : Text} {o : ScopedOpener} (h : scopedOpener? s = some o) :
    (∀ c ∈ o.on, isMarkerLetter c = true) ∧ (∀ c ∈ o.off, isMarkerLetter c = true)
      ∧ ∃ off rest, (off = [] ∨ off = '-' :: o.off)
        ∧ s = '(' :: '?' :: (o.on ++ (off ++ ':' :: rest))
        ∧ o.length = o.on.length + off.length + 3 := by
  obtain ⟨hon, hoff, hlen, rest, hs⟩ := scopedOpener?_eq_some_iff.mp h
  refine ⟨hon, hoff, switchOff o.off, rest, ?_, hs, hlen⟩
  cases o.off with
  | nil => exact .inl rfl
  | cons c cs => exact .inr rfl

/-- A named opener is `(?P<`, a name, and `>`. -/
theorem eq_of_namedOpener? {s name : Text} (h : namedOpener? s = some name) :
    (∀ c ∈ name, isNameChar c = true)
      ∧ ∃ rest, s = '(' :: '?' :: 'P' :: '<' :: (name ++ '>' :: rest) := by
  unfold namedOpener? at h
  split at h
  · next s =>
      dsimp only at h
      split at h
      · next c cs rest hl hr =>
          split at h
          · obtain rfl := Option.some.inj h
            refine ⟨fun c hc => List.mem_takeWhile_imp hc, rest, ?_⟩
            exact congrArg (fun t => '(' :: '?' :: 'P' :: '<' :: t) (eq_takeWhile_append hr)
          · cases h
      · cases h
  · cases h

/-- A group name: word characters, and the first of them no digit. -/
def IsGroupName (name : Text) : Prop :=
  (∃ c cs, name = c :: cs ∧ isNameStart c = true) ∧ ∀ c ∈ name, isNameChar c = true

theorem namedOpener?_eq_some_iff {s name : Text} : namedOpener? s = some name ↔
    IsGroupName name ∧ ∃ rest, s = '(' :: '?' :: 'P' :: '<' :: (name ++ '>' :: rest) := by
  constructor
  · intro h
    obtain ⟨hchars, rest, rfl⟩ := eq_of_namedOpener? h
    refine ⟨⟨?_, hchars⟩, rest, rfl⟩
    have htake := takeWhile_append_cons hchars (c := '>') (by decide) rest
    simp only [namedOpener?, htake, List.drop_left] at h
    cases name with
    | nil => cases h
    | cons c cs =>
        refine ⟨c, cs, rfl, ?_⟩
        by_contra hstart
        simp [hstart] at h
  · rintro ⟨⟨⟨c, cs, rfl, hstart⟩, hchars⟩, rest, rfl⟩
    have htake := takeWhile_append_cons hchars (c := '>') (by decide) rest
    simp only [namedOpener?, htake, List.drop_left, hstart, if_true]

end SecretScan.Pattern
