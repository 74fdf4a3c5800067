import Mathlib.Data.List.TakeWhile
import SecretScan.Proofs.Failure
import SecretScan.Proofs.Pattern.Familiar
import SecretScan.Regex.Parser

/-!
# What the parser takes off a pattern

The parser works on what is left of a pattern. For most of its functions it is enough to know that
what they take off the front holds nothing that a walk over the pattern would stop at: no escape, no
parenthesis and no bracket (`Reader.Eats`). An escape and a named item do hold such characters, but
only at their ends (`readEscape_eats`, `readNamedItem?_eq_some`).
-/

namespace SecretScan.Regex

open Pattern

theorem isHarmless_of_isIdentifier {name : Text} (h : isIdentifier name = true) :
    ∀ c ∈ name, IsHarmless c := by
  cases name with
  | nil => nofun
  | cons c name =>
      rw [isIdentifier, Bool.and_eq_true, List.all_eq_true] at h
      intro d hd
      rcases List.mem_cons.mp hd with rfl | hd
      · exact isHarmless_of_class h.1 (by decide +kernel)
      · exact isHarmless_of_class (h.2 d hd) (by decide +kernel)

/-! ## Taking text off the front -/

namespace Reader

/-- `r.Eats r'`: from `r` to `r'` only harmless characters are taken off. -/
def Eats (r r' : Reader) : Prop :=
  ∃ eaten, r.rest = eaten ++ r'.rest ∧ ∀ c ∈ eaten, IsHarmless c

variable {r r' r'' : Reader} {c : Char} {t : Text} {p : Char → Bool}

theorem Eats.of_rest (h : r.rest = r'.rest) : r.Eats r' :=
  ⟨[], h, nofun⟩

theorem Eats.trans (h : r.Eats r') (h' : r'.Eats r'') : r.Eats r'' := by
  obtain ⟨s, hs, hharmless⟩ := h
  obtain ⟨t, ht, hharmless'⟩ := h'
  refine ⟨s ++ t, by rw [hs, ht, List.append_assoc], ?_⟩
  exact List.forall_mem_append.mpr ⟨hharmless, hharmless'⟩

theorem rest_advance_one (hr : r.rest = c :: t) : (r.advance 1).rest = t := by
  rw [advance, hr]
  rfl

theorem accept?_eq_some (h : r.accept? t = some r') : r.rest = t ++ r'.rest := by
  unfold accept? at h
  split at h
  · next hp =>
      obtain rfl := Option.some.inj h
      exact (List.prefix_iff_eq_append.mp (List.isPrefixOf_iff_prefix.mp hp)).symm
  · cases h

theorem accept?_eq_none (h : r.accept? [c] = none) : r.rest.head? ≠ some c := by
  intro hc
  unfold accept? at h
  split at h
  · cases h
  · next hp =>
      refine hp ?_
      cases hr : r.rest with
      | nil => rw [hr] at hc; cases hc
      | cons d s =>
          rw [hr] at hc
          rw [Option.some.inj hc]
          simp

theorem expect_eq_ok (h : r.expect c = .ok r') : r.rest = c :: r'.rest := by
  unfold expect at h
  split at h
  · next heq =>
      obtain rfl := Except.ok.inj h
      exact accept?_eq_some heq
  · cases h

theorem rest_span (r : Reader) (p : Char → Bool) : r.rest = (r.span p).1 ++ (r.span p).2.rest :=
  (List.prefix_iff_eq_append.mp (List.takeWhile_prefix p)).symm

theorem mem_span (hc : c ∈ (r.span p).1) : p c = true :=
  List.mem_takeWhile_imp hc

theorem Eats.span (hp : ['\\', '[', ']', '(', ')'].any p = false) : r.Eats (r.span p).2 :=
  ⟨(r.span p).1, rest_span r p, fun _ hc => isHarmless_of_class (mem_span hc) hp⟩

theorem Eats.accept? (h : r.accept? t = some r') (ht : t.all (IsHarmless ·) = true) : r.Eats r' :=
  ⟨t, accept?_eq_some h, isHarmless_of_all ht⟩

theorem Eats.expect (h : r.expect c = .ok r') (hc : IsHarmless c) : r.Eats r' :=
  ⟨[c], expect_eq_ok h, List.forall_mem_singleton.mpr hc⟩

theorem Eats.advance {n : Nat} (h : ∀ c ∈ r.rest.take n, IsHarmless c) : r.Eats (r.advance n) :=
  ⟨r.rest.take n, (List.take_append_drop n r.rest).symm, h⟩

theorem Eats.front {s : Text} (t : Text) (hr : r.rest = t ++ s)
    (ht : t.all (IsHarmless ·) = true) : r.Eats (r.advance t.length) := by
  refine .advance ?_
  rw [hr, List.take_left]
  exact isHarmless_of_all ht

end Reader

open Reader

variable {r r' : Reader}

/-! ## Escapes -/

theorem readRef_rest {ref : GroupRef} {place : Nat} {e : Escape}
    (h : readRef ref place r = .ok (e, r')) : r.rest = r'.rest := by
  unfold readRef at h
  split at h
  · cases h
  · cases h
    rfl

theorem readName_eats {numeric : Bool} {ref : GroupRef} (h : readName numeric r = .ok (ref, r')) :
    r.Eats r' := by
  unfold readName at h
  dsimp only at h
  have hrest := rest_span r fun c => c ≠ ')' && c ≠ '>'
  split at h
  · cases h
  split at h
  · next hdigits =>
      split at h
      · cases h
        exact ⟨_, hrest, fun c hc =>
          isHarmless_of_class (List.all_eq_true.mp hdigits c hc) (by decide)⟩
      · cases h
  split at h
  · next hname =>
      cases h
      exact ⟨_, hrest, isHarmless_of_isIdentifier hname⟩
  · cases h

theorem readHex_eats {c : Char} {width : Nat} {e : Escape}
    (h : readHex c width r = .ok (e, r')) : r.Eats r' := by
  unfold readHex at h
  dsimp only at h
  split at h
  · cases h
  next hlen =>
  split at h
  · cases h
    refine .advance fun c hc => ?_
    have hall : (r.rest.take width).takeWhile isHex = r.rest.take width := by
      refine (List.takeWhile_prefix isHex).eq_of_length ?_
      have := (List.takeWhile_prefix isHex (l := r.rest.take width)).length_le
      have := List.length_take_le width r.rest
      omega
    rw [← hall] at hc
    exact isHarmless_of_class (List.mem_takeWhile_imp hc) (by decide)
  · cases h

/-- As many characters as satisfy `p` among the next ones. -/
theorem Reader.Eats.advance_run {n : Nat} {p : Char → Bool}
    (hp : ['\\', '[', ']', '(', ')'].any p = false) :
    r.Eats (r.advance ((r.rest.take n).takeWhile p).length) := by
  refine .advance fun c hc => ?_
  have hrun : r.rest.take ((r.rest.take n).takeWhile p).length = (r.rest.take n).takeWhile p := by
    refine (List.prefix_iff_eq_take.mp ?_).symm
    exact (List.takeWhile_prefix p).trans (List.take_prefix n r.rest)
  rw [hrun] at hc
  exact isHarmless_of_class (List.mem_takeWhile_imp hc) hp

theorem readDigits_eats {c : Char} {inClass : Bool} {e : Escape}
    (h : readDigits c inClass r = .ok (e, r')) : r.Eats r' := by
  unfold readDigits at h
  dsimp only at h
  have hoctal : r.Eats (r.advance ((r.rest.take 2).takeWhile isOctal).length) :=
    .advance_run (by decide)
  split at h
  · split at h
    · cases h
      exact hoctal
    · cases h
  split at h
  · next htwo =>
      cases h
      rw [Bool.and_eq_true, decide_eq_true_eq] at htwo
      rw [htwo.2] at hoctal
      exact hoctal
  · exact Eats.trans (.advance_run (by decide)) (.of_rest (readRef_rest h))

theorem readAngled_eats {e : Escape} (h : readAngled r = .ok (e, r')) : r.Eats r' := by
  unfold readAngled at h
  obtain ⟨r₁, h₁, h⟩ := bind_eq_ok.mp h
  obtain ⟨⟨ref, r₂⟩, h₂, h⟩ := bind_eq_ok.mp h
  obtain ⟨r₃, h₃, h⟩ := bind_eq_ok.mp h
  exact (Eats.expect h₁ (by decide)).trans <| (readName_eats h₂).trans <|
    (Eats.expect h₃ (by decide)).trans (.of_rest (readRef_rest h))

theorem negation_eats (r : Reader) : r.Eats r.negation.2 := by
  unfold negation
  split
  · next heq => exact .accept? heq (by decide)
  · exact .of_rest rfl

theorem readProperty_eats {positive : Bool} {e : Escape}
    (h : readProperty positive r = .ok (e, r')) : r.Eats r' := by
  unfold readProperty at h
  dsimp only at h
  split at h
  · cases h
    exact .of_rest rfl
  next inner hbrace =>
  have hopen : r.Eats inner := .accept? hbrace (by decide)
  split at h
  · cases h
    exact .of_rest rfl
  next last hlast =>
  split at h
  · cases h
    refine hopen.trans (Eats.trans (negation_eats inner) ?_)
    exact Eats.trans (.span (p := isPropertyChar) (by decide +kernel)) (.accept? hlast (by decide))
  · cases h

/-- **An escape is one character of any kind and then harmless ones.** -/
theorem readEscape_eats {inClass : Bool} {e : Escape} (h : readEscape inClass r = .ok (e, r')) :
    ∃ c s, r.rest = c :: s ∧ (r.advance 1).rest = s ∧ (r.advance 1).Eats r' := by
  unfold readEscape at h
  split at h
  · cases h
  next c s hr =>
  refine ⟨c, s, hr, rest_advance_one hr, ?_⟩
  dsimp only at h
  split at h
  · exact readHex_eats h
  split at h
  · split at h
    · next heq =>
        cases h
        exact readAngled_eats heq
    · cases h
      exact .of_rest rfl
  split at h
  · exact readProperty_eats h
  split at h
  · split at h
    · cases h
      exact .of_rest rfl
    · split at h
      · cases h
        exact .of_rest rfl
      · cases h
        exact .of_rest rfl
      · cases h
  split at h
  · exact readDigits_eats h
  · cases h
    exact .of_rest rfl

/-! ## Repetitions -/

theorem readBounds?_eats {bounds : Nat × Option Nat} (h : readBounds? r = .ok (some (bounds, r'))) :
    r.Eats r' := by
  unfold readBounds? at h
  have hleast : r.Eats (r.span Char.isDigit).2 := .span (by decide)
  dsimp only at h
  split at h
  · next least most next hbounds hclose =>
      have hlast : Eats _ next := .accept? hclose (by decide)
      have hnext : r' = next := by
        split at h
        · cases h
        split at h
        · cases h
        · cases h
          rfl
      subst hnext
      split at hlast
      · next hcomma =>
          have hmost := Eats.accept? hcomma (by decide)
          exact hleast.trans (hmost.trans ((Eats.span (by decide)).trans hlast))
      · exact hleast.trans hlast
  · cases h

theorem readQuantifier?_eats {c : Char} {bounds : Nat × Option Nat}
    (h : readQuantifier? c r = .ok (some (bounds, r'))) : r.Eats r' := by
  unfold readQuantifier? at h
  split at h
  · cases h
    exact .of_rest rfl
  · cases h
    exact .of_rest rfl
  · cases h
    exact .of_rest rfl
  · exact readBounds?_eats h
  · cases h

theorem readGreed_eats (r : Reader) : r.Eats (readGreed r).2 := by
  unfold readGreed
  split
  · next hr => exact .front ['?'] hr (by decide)
  · next hr => exact .front ['+'] hr (by decide)
  · exact .of_rest rfl

/-! ## Openings of groups -/

theorem readFlags_eats {letters : Text × Text} (h : readFlags r = .ok (letters, r')) : r.Eats r' := by
  unfold readFlags at h
  have hon : r.Eats (r.span isFlagLetter).2 := .span (by decide +kernel)
  dsimp only at h
  split at h
  · cases h
    exact hon
  · next next hdash =>
      have hdash := Eats.accept? hdash (by decide)
      have hoff : next.Eats (next.span isFlagLetter).2 := .span (by decide +kernel)
      split at h
      · cases h
      split at h
      · cases h
      · cases h
        exact hon.trans (hdash.trans hoff)

theorem openGroup_eats (r : Reader) (name : Option Text) : r.Eats (r.openGroup name).2 := by
  refine .of_rest ?_
  unfold openGroup
  split <;> rfl

theorem readNamedGroup_eats {opening : Opening} (h : readNamedGroup r = .ok (opening, r')) :
    r.Eats r' ∧ ∃ group, opening = .capture group := by
  unfold readNamedGroup at h
  obtain ⟨⟨ref, r₁⟩, hname, h⟩ := bind_eq_ok.mp h
  dsimp only at h
  obtain ⟨r₂, hclose, h⟩ := bind_eq_ok.mp h
  cases h
  have hlast := Eats.expect hclose (by decide)
  exact ⟨(readName_eats hname).trans ((openGroup_eats r₁ _).trans hlast), _, rfl⟩

end SecretScan.Regex
