import SecretScan.Proofs.Text.Ascii
import SecretScan.Scan.Requirement

/-!
# What a check decides

A text can lack characters of a kind (`Lacks`), and a term can hit it (`Hits`). Both are said here
without the check: a kind is an alphabet, and a term hits if its lower case is a part of the lower
case of the text. `Judged` says which verdict these two come to: a kind that lacks comes before any
term, the first kind before a later one, and the first term before a later one.

A check gives the verdict that is judged and no other (`judged_iff`). Everything else is read off
from there, also that the order of the terms matters for the one that is shown only.
-/

namespace SecretScan

theorem Text.hasInfix_iff {needle t : Text} : Text.hasInfix needle t = true ↔ needle <:+: t := by
  induction t with
  | nil => rw [Text.hasInfix, List.isEmpty_iff, List.infix_nil]
  | cons c t ih =>
      rw [Text.hasInfix, Bool.or_eq_true, List.isPrefixOf_iff_prefix, ih, List.infix_cons_iff]

/-- `x` is the first of `xs` with `P`. -/
def First {α : Type} (xs : List α) (P : α → Prop) (x : α) : Prop :=
  P x ∧ ∃ before after, xs = before ++ x :: after ∧ ∀ y ∈ before, ¬ P y

/-- The kinds in the order in which they are counted. -/
def CharKind.inOrder : List CharKind :=
  [.digit, .uppercase, .lowercase, .special]

theorem CharKind.mem_inOrder (kind : CharKind) : kind ∈ inOrder := by
  cases kind <;> decide

namespace Requirements

/-- The characters of a kind. A rule that names no special characters, or none at all, means the
usual ones. -/
def alphabet (r : Requirements) : CharKind → Text
  | .digit => "0123456789".toList
  | .uppercase => "ABCDEFGHIJKLMNOPQRSTUVWXYZ".toList
  | .lowercase => "abcdefghijklmnopqrstuvwxyz".toList
  | .special => (r.specialChars.filter (· ≠ [])).getD defaultSpecials

/-- How many characters of a text are of a kind. -/
def found (r : Requirements) (t : Text) (kind : CharKind) : Nat :=
  t.countP (· ∈ r.alphabet kind)

/-- There are fewer characters of a kind than asked for. -/
def Lacks (r : Requirements) (t : Text) (kind : CharKind) : Prop :=
  ∃ least, r.least? kind = some least ∧ (r.found t kind : Int) < least

/-- A term that is not blank occurs in a text, in whatever case. -/
def Hits (t term : Text) : Prop :=
  Text.lower term.trim ≠ [] ∧ Text.lower term.trim <:+: Text.lower t

/-- The verdict that a text deserves. -/
inductive Judged (r : Requirements) (t : Text) : Verdict → Prop where
  | passed (hkinds : ∀ kind, ¬ r.Lacks t kind) (hterms : ∀ term ∈ r.ignoreTerms, ¬ Hits t term) :
      Judged r t .passed
  | short {kind : CharKind} {least : Int} (hfirst : First CharKind.inOrder (r.Lacks t) kind)
      (hleast : r.least? kind = some least) : Judged r t (.short kind least (r.found t kind))
  | ignored {term : Text} (hkinds : ∀ kind, ¬ r.Lacks t kind)
      (hfirst : First r.ignoreTerms (Hits t) term) : Judged r t (.ignored term.trim)

variable {r : Requirements} {t : Text}

/-! ## Kinds -/

/-- A class of letters or digits is the list of its characters. -/
theorem isClass_iff_mem {p : Char → Bool} {cs : Text} (hp : ∀ c, p c = true → c.isAlphanum = true)
    (hcs : cs.all p = true) (hall : ∀ n < 128, p (Char.ofNat n) = true → Char.ofNat n ∈ cs)
    (c : Char) : p c = true ↔ c ∈ cs := by
  constructor
  · intro hc
    have hascii : c.toNat < 128 := Text.toNat_lt_of_isAlphanum (hp c hc)
    exact Text.forall_ascii (P := fun c => p c = true → c ∈ cs) hall hascii hc
  · exact fun hc => List.all_eq_true.mp hcs c hc

theorem specials_eq (r : Requirements) : r.specials = r.alphabet .special := by
  unfold specials alphabet
  rcases r.specialChars with _ | _ | ⟨c, cs⟩ <;> rfl

theorem isOfKind_iff (r : Requirements) (c : Char) (kind : CharKind) :
    r.isOfKind c kind = true ↔ c ∈ r.alphabet kind := by
  have halnum : ∀ d : Char, d.isAlphanum = ((d.isUpper || d.isLower) || d.isDigit) := fun _ => rfl
  cases kind with
  | digit =>
      show c.isDigit = true ↔ c ∈ "0123456789".toList
      refine isClass_iff_mem (fun d hd => ?_) (by decide) (by decide) c
      rw [halnum, hd, Bool.or_true]
  | uppercase =>
      show c.isUpper = true ↔ c ∈ "ABCDEFGHIJKLMNOPQRSTUVWXYZ".toList
      refine isClass_iff_mem (fun d hd => ?_) (by decide) (by decide) c
      rw [halnum, hd, Bool.true_or, Bool.true_or]
  | lowercase =>
      show c.isLower = true ↔ c ∈ "abcdefghijklmnopqrstuvwxyz".toList
      refine isClass_iff_mem (fun d hd => ?_) (by decide) (by decide) c
      rw [halnum, hd, Bool.or_true, Bool.true_or]
  | special => rw [isOfKind, decide_eq_true_eq, specials_eq]

theorem countP_isOfKind (r : Requirements) (t : Text) (kind : CharKind) :
    (t.countP fun c => r.isOfKind c kind) = r.found t kind := by
  refine List.countP_congr fun c _ => ?_
  rw [isOfKind_iff, decide_eq_true_eq]

theorem shortage?_eq_some_iff {kind : CharKind} {v : Verdict} :
    r.shortage? t kind = some v
      ↔ ∃ least, r.least? kind = some least ∧ (r.found t kind : Int) < least
        ∧ v = .short kind least (r.found t kind) := by
  unfold shortage?
  rw [countP_isOfKind]
  cases r.least? kind with
  | none => simp
  | some least => grind

theorem shortage?_eq_none_iff {kind : CharKind} : r.shortage? t kind = none ↔ ¬ r.Lacks t kind := by
  rw [← Option.not_isSome_iff_eq_none, Option.isSome_iff_exists]
  refine not_congr ⟨?_, ?_⟩
  · rintro ⟨v, hv⟩
    obtain ⟨least, hleast, hlt, -⟩ := shortage?_eq_some_iff.mp hv
    exact ⟨least, hleast, hlt⟩
  · rintro ⟨least, hleast, hlt⟩
    exact ⟨_, shortage?_eq_some_iff.mpr ⟨least, hleast, hlt, rfl⟩⟩

/-- The objection to the kinds is to the first one that lacks. -/
theorem findSome?_shortage?_eq_some_iff {v : Verdict} :
    CharKind.inOrder.findSome? (r.shortage? t) = some v
      ↔ ∃ kind least, First CharKind.inOrder (r.Lacks t) kind ∧ r.least? kind = some least
        ∧ v = .short kind least (r.found t kind) := by
  rw [List.findSome?_eq_some_iff]
  constructor
  · rintro ⟨before, kind, after, hsplit, hv, hbefore⟩
    obtain ⟨least, hleast, hlt, rfl⟩ := shortage?_eq_some_iff.mp hv
    have hearlier : ∀ k ∈ before, ¬ r.Lacks t k := fun k hk =>
      shortage?_eq_none_iff.mp (hbefore k hk)
    exact ⟨kind, least, ⟨⟨least, hleast, hlt⟩, before, after, hsplit, hearlier⟩, hleast, rfl⟩
  · rintro ⟨kind, least, ⟨⟨least', hleast', hlt⟩, before, after, hsplit, hearlier⟩, hleast, rfl⟩
    obtain rfl : least' = least := Option.some.inj (hleast'.symm.trans hleast)
    exact ⟨before, kind, after, hsplit, shortage?_eq_some_iff.mpr ⟨least', hleast, hlt, rfl⟩,
      fun k hk => shortage?_eq_none_iff.mpr (hearlier k hk)⟩

theorem findSome?_shortage?_eq_none_iff :
    CharKind.inOrder.findSome? (r.shortage? t) = none ↔ ∀ kind, ¬ r.Lacks t kind := by
  rw [List.findSome?_eq_none_iff]
  constructor
  · intro h kind
    exact shortage?_eq_none_iff.mp (h kind kind.mem_inOrder)
  · intro h kind _
    exact shortage?_eq_none_iff.mpr (h kind)

/-! ## Terms -/

theorem termHits_iff {term : Text} : termHits (Text.lower t) term = true ↔ Hits t term := by
  unfold termHits Hits
  dsimp only
  rw [Bool.and_eq_true, Bool.not_eq_true', ← Bool.not_eq_true, List.isEmpty_iff, Text.hasInfix_iff]

theorem find?_termHits_eq_some_iff {terms : List Text} {term : Text} :
    terms.find? (termHits (Text.lower t)) = some term ↔ First terms (Hits t) term := by
  rw [List.find?_eq_some_iff_append, termHits_iff]
  refine and_congr_right fun _ => exists_congr fun before => exists_congr fun after =>
    and_congr_right fun _ => forall₂_congr fun y _ => ?_
  rw [Bool.not_eq_true', ← Bool.not_eq_true, termHits_iff]

theorem find?_termHits_eq_none_iff {terms : List Text} :
    terms.find? (termHits (Text.lower t)) = none ↔ ∀ term ∈ terms, ¬ Hits t term := by
  rw [List.find?_eq_none]
  exact forall₂_congr fun term _ => not_congr termHits_iff

/-! ## Verdicts -/

theorem check_of_short {v : Verdict} (h : CharKind.inOrder.findSome? (r.shortage? t) = some v) :
    r.check t = v := by
  rw [CharKind.inOrder] at h
  rw [check, h]

theorem check_of_hit {term : Text} (hshort : CharKind.inOrder.findSome? (r.shortage? t) = none)
    (hfind : r.ignoreTerms.find? (termHits (Text.lower t)) = some term) :
    r.check t = .ignored term.trim := by
  rw [CharKind.inOrder] at hshort
  rw [check, hshort, hfind]

theorem check_of_miss (hshort : CharKind.inOrder.findSome? (r.shortage? t) = none)
    (hfind : r.ignoreTerms.find? (termHits (Text.lower t)) = none) : r.check t = .passed := by
  rw [CharKind.inOrder] at hshort
  rw [check, hshort, hfind]

theorem judged_check (r : Requirements) (t : Text) : Judged r t (r.check t) := by
  cases hshort : CharKind.inOrder.findSome? (r.shortage? t) with
  | some v =>
      rw [check_of_short hshort]
      obtain ⟨kind, least, hfirst, hleast, rfl⟩ := findSome?_shortage?_eq_some_iff.mp hshort
      exact .short hfirst hleast
  | none =>
      have hkinds := findSome?_shortage?_eq_none_iff.mp hshort
      cases hfind : r.ignoreTerms.find? (termHits (Text.lower t)) with
      | some term =>
          rw [check_of_hit hshort hfind]
          exact .ignored hkinds (find?_termHits_eq_some_iff.mp hfind)
      | none =>
          rw [check_of_miss hshort hfind]
          exact .passed hkinds (find?_termHits_eq_none_iff.mp hfind)

/-- **A check gives the verdict that is deserved and no other.** -/
theorem judged_iff {v : Verdict} : Judged r t v ↔ r.check t = v := by
  constructor
  · intro h
    cases h with
    | passed hkinds hterms =>
        have hshort := findSome?_shortage?_eq_none_iff.mpr hkinds
        exact check_of_miss hshort (find?_termHits_eq_none_iff.mpr hterms)
    | short hfirst hleast =>
        exact check_of_short (findSome?_shortage?_eq_some_iff.mpr ⟨_, _, hfirst, hleast, rfl⟩)
    | ignored hkinds hfirst =>
        have hshort := findSome?_shortage?_eq_none_iff.mpr hkinds
        exact check_of_hit hshort (find?_termHits_eq_some_iff.mpr hfirst)
  · rintro rfl
    exact judged_check r t

theorem check_eq_passed_iff : r.check t = .passed
    ↔ (∀ kind, ¬ r.Lacks t kind) ∧ ∀ term ∈ r.ignoreTerms, ¬ Hits t term := by
  rw [← judged_iff]
  constructor
  · intro h
    cases h with
    | passed hkinds hterms => exact ⟨hkinds, hterms⟩
  · rintro ⟨hkinds, hterms⟩
    exact .passed hkinds hterms

theorem check_eq_short_iff {kind : CharKind} {least : Int} {n : Nat} :
    r.check t = .short kind least n
      ↔ First CharKind.inOrder (r.Lacks t) kind ∧ r.least? kind = some least
        ∧ n = r.found t kind := by
  rw [← judged_iff]
  constructor
  · intro h
    cases h with
    | short hfirst hleast => exact ⟨hfirst, hleast, rfl⟩
  · rintro ⟨hfirst, hleast, rfl⟩
    exact .short hfirst hleast

theorem check_eq_ignored_iff {shown : Text} : r.check t = .ignored shown
    ↔ (∀ kind, ¬ r.Lacks t kind)
      ∧ ∃ term, First r.ignoreTerms (Hits t) term ∧ shown = term.trim := by
  rw [← judged_iff]
  constructor
  · intro h
    cases h with
    | ignored hkinds hfirst => exact ⟨hkinds, _, hfirst, rfl⟩
  · rintro ⟨hkinds, term, hfirst, rfl⟩
    exact .ignored hkinds hfirst

/-- Some term hits if and only if some term is the first to. -/
theorem exists_first_iff {terms : List Text} :
    (∃ term, First terms (Hits t) term) ↔ ∃ term ∈ terms, Hits t term := by
  constructor
  · rintro ⟨term, hhits, before, after, rfl, -⟩
    exact ⟨term, by simp, hhits⟩
  · rintro ⟨term, hmem, hhits⟩
    cases hfind : terms.find? (termHits (Text.lower t)) with
    | none => exact absurd hhits (find?_termHits_eq_none_iff.mp hfind term hmem)
    | some first => exact ⟨first, find?_termHits_eq_some_iff.mp hfind⟩

theorem exists_ignored_iff : (∃ shown, r.check t = .ignored shown)
    ↔ (∀ kind, ¬ r.Lacks t kind) ∧ ∃ term ∈ r.ignoreTerms, Hits t term := by
  rw [← exists_first_iff]
  constructor
  · rintro ⟨shown, hshown⟩
    obtain ⟨hkinds, term, hfirst, -⟩ := check_eq_ignored_iff.mp hshown
    exact ⟨hkinds, term, hfirst⟩
  · rintro ⟨hkinds, term, hfirst⟩
    exact ⟨term.trim, check_eq_ignored_iff.mpr ⟨hkinds, term, hfirst, rfl⟩⟩

/-- The reason is about the first kind that lacks, or else about the first term that hits. -/
theorem reason?_check_iff {reason : String} : (r.check t).reason? = some reason
    ↔ (∃ kind least, First CharKind.inOrder (r.Lacks t) kind ∧ r.least? kind = some least
        ∧ reason = s!"Requires at least {least} {kind.noun}, found {r.found t kind}")
      ∨ (∀ kind, ¬ r.Lacks t kind) ∧ ∃ term, First r.ignoreTerms (Hits t) term
        ∧ reason = s!"Contains ignored term: {String.ofList term.trim}" := by
  constructor
  · intro h
    cases hv : r.check t with
    | passed =>
        rw [hv] at h
        cases h
    | short kind least n =>
        obtain ⟨hfirst, hleast, rfl⟩ := check_eq_short_iff.mp hv
        rw [hv] at h
        exact .inl ⟨kind, least, hfirst, hleast, (Option.some.inj h).symm⟩
    | ignored shown =>
        obtain ⟨hkinds, term, hfirst, rfl⟩ := check_eq_ignored_iff.mp hv
        rw [hv] at h
        exact .inr ⟨hkinds, term, hfirst, (Option.some.inj h).symm⟩
  · rintro (⟨kind, least, hfirst, hleast, rfl⟩ | ⟨hkinds, term, hfirst, rfl⟩)
    · rw [check_eq_short_iff.mpr ⟨hfirst, hleast, rfl⟩]
      rfl
    · rw [check_eq_ignored_iff.mpr ⟨hkinds, term, hfirst, rfl⟩]
      rfl

/-- Which terms there are decides, not how they are listed. -/
theorem check_relist {terms : List Text} (h : ∀ term, term ∈ terms ↔ term ∈ r.ignoreTerms) :
    (({ r with ignoreTerms := terms }.check t = .passed) ↔ r.check t = .passed)
      ∧ ((∃ shown, { r with ignoreTerms := terms }.check t = .ignored shown)
        ↔ ∃ shown, r.check t = .ignored shown) := by
  have hlacks : { r with ignoreTerms := terms }.Lacks t = r.Lacks t := rfl
  constructor
  · rw [check_eq_passed_iff, check_eq_passed_iff, hlacks]
    refine and_congr_right fun _ => ?_
    simp only [h]
  · rw [exists_ignored_iff, exists_ignored_iff, hlacks]
    refine and_congr_right fun _ => ?_
    simp only [h]

/--
**A check decides exactly.**

A text passes if it lacks no kind and no term hits it, and it is ignored if it lacks no kind and
some term hits it. The reason names the first kind that lacks, with the true count, or else the
first term that hits. How the terms are listed, in which order and how often, matters neither for
passing nor for being ignored.
-/
theorem check_decides (r : Requirements) (t : Text) :
    (r.check t = .passed ↔ (∀ kind, ¬ r.Lacks t kind) ∧ ∀ term ∈ r.ignoreTerms, ¬ Hits t term)
      ∧ ((∃ shown, r.check t = .ignored shown)
        ↔ (∀ kind, ¬ r.Lacks t kind) ∧ ∃ term ∈ r.ignoreTerms, Hits t term)
      ∧ (∀ reason, (r.check t).reason? = some reason
        ↔ (∃ kind least, First CharKind.inOrder (r.Lacks t) kind ∧ r.least? kind = some least
            ∧ reason = s!"Requires at least {least} {kind.noun}, found {r.found t kind}")
          ∨ (∀ kind, ¬ r.Lacks t kind) ∧ ∃ term, First r.ignoreTerms (Hits t) term
            ∧ reason = s!"Contains ignored term: {String.ofList term.trim}")
      ∧ ∀ terms : List Text, (∀ term, term ∈ terms ↔ term ∈ r.ignoreTerms) →
        (({ r with ignoreTerms := terms }.check t = .passed) ↔ r.check t = .passed)
          ∧ ((∃ shown, { r with ignoreTerms := terms }.check t = .ignored shown)
            ↔ ∃ shown, r.check t = .ignored shown) :=
  ⟨check_eq_passed_iff, exists_ignored_iff, fun _ => reason?_check_iff,
    fun _ hterms => check_relist hterms⟩

/-- A blank term never hits, and another one does in whatever case, without its blanks. -/
example : { Requirements.free with
    minSpecial := some 1, specialChars := some []
    ignoreTerms := [" ".toList, " Demo\n".toList] }.check "sk_DEMO 1".toList = .ignored "Demo".toList := by
  decide +kernel

end Requirements

end SecretScan
