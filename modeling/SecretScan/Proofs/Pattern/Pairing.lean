import SecretScan.Proofs.Pattern.Matching

/-!
# Two ways to pair parentheses

A stack pairs each `)` with the `(` that was opened last and is still open, in one walk over the
whole pattern. The end of a single group is found otherwise: a fresh walk begins behind its `(` and
counts. The two agree, for two reasons. Behind a `(` that is syntax a fresh walk reads what the
whole walk reads there (`tokens_behind`). And a stack, too, pairs a `(` with the first `)` behind it
that closes none of the groups opened since (`mem_pairsFrom_iff`), whatever is unmatched around
them.
-/

namespace SecretScan.Pattern

/-- The pairs of offsets that a stack gives, with the offsets of the groups still open on it. A `)`
that finds the stack empty is passed over. -/
def pairsFrom : List Nat → List Token → List (Nat × Nat)
  | _, [] => []
  | stack, t :: ts =>
    if t.isSyntax '(' then pairsFrom (t.index :: stack) ts
    else if t.isSyntax ')' then
      match stack with
      | [] => pairsFrom [] ts
      | i :: stack => (i, t.index) :: pairsFrom stack ts
    else pairsFrom stack ts

/-- The pairs of parentheses of a pattern. -/
def pairs (pattern : Text) : List (Nat × Nat) :=
  pairsFrom [] (tokens pattern)

/-- The offsets at which a character is syntax. -/
def syntaxOffsets (pattern : Text) (c : Char) : List Nat :=
  ((tokens pattern).filter (·.isSyntax c)).map Token.index

theorem mem_syntaxOffsets {pattern : Text} {c : Char} {i : Nat} :
    i ∈ syntaxOffsets pattern c ↔ ∃ before t after, tokens pattern = before ++ t :: after
      ∧ t.isSyntax c = true ∧ t.index = i := by
  rw [syntaxOffsets, List.mem_map]
  constructor
  · rintro ⟨t, ht, hi⟩
    obtain ⟨hmem, hsyntax⟩ := List.mem_filter.mp ht
    obtain ⟨before, after, hts⟩ := List.append_of_mem hmem
    exact ⟨before, t, after, hts, hsyntax, hi⟩
  · rintro ⟨before, t, after, hts, hsyntax, hi⟩
    have hmem : t ∈ tokens pattern := by
      rw [hts]
      exact List.mem_append_right before List.mem_cons_self
    exact ⟨t, List.mem_filter.mpr ⟨hmem, hsyntax⟩, hi⟩

/-! ## The pairs of a stack -/

section Steps

variable {t : Token} (stack : List Nat) (ts : List Token)

theorem pairsFrom_open (h : t.isSyntax '(' = true) :
    pairsFrom stack (t :: ts) = pairsFrom (t.index :: stack) ts :=
  if_pos h

theorem pairsFrom_close_nil (h : t.isSyntax ')' = true) :
    pairsFrom [] (t :: ts) = pairsFrom [] ts := by
  rw [pairsFrom, if_neg (Bool.eq_false_iff.mp (t.not_open_of_close h)), if_pos h]

theorem pairsFrom_close_cons (h : t.isSyntax ')' = true) (i : Nat) :
    pairsFrom (i :: stack) (t :: ts) = (i, t.index) :: pairsFrom stack ts := by
  rw [pairsFrom, if_neg (Bool.eq_false_iff.mp (t.not_open_of_close h)), if_pos h]

theorem pairsFrom_other (hopen : t.isSyntax '(' = false) (hclose : t.isSyntax ')' = false) :
    pairsFrom stack (t :: ts) = pairsFrom stack ts := by
  rw [pairsFrom.eq_def]
  dsimp only
  rw [hopen, hclose]
  rfl

end Steps

/-- The `(` at `i` is closed at `j`. -/
def Paired (ts : List Token) (i j : Nat) : Prop :=
  ∃ before o after, ts = before ++ o :: after
    ∧ o.isSyntax '(' = true ∧ o.index = i ∧ closingIndex? 1 after = some j

theorem paired_cons {t : Token} {ts : List Token} {i j : Nat} :
    Paired (t :: ts) i j
      ↔ (t.isSyntax '(' = true ∧ t.index = i ∧ closingIndex? 1 ts = some j) ∨ Paired ts i j :=
  exists_place_cons

theorem exists_depth_cons {P : Nat → Prop} {s i : Nat} {stack : List Nat} :
    (∃ k, (s :: stack)[k]? = some i ∧ P k) ↔ (s = i ∧ P 0) ∨ ∃ k, stack[k]? = some i ∧ P (k + 1) := by
  rw [← Nat.or_exists_add_one]
  simp only [List.getElem?_cons_zero, List.getElem?_cons_succ, Option.some_inj]

/-- **A stack pairs a group with the place where it is closed**, be it one that is on the stack or
one opened later. -/
theorem mem_pairsFrom_iff {stack : List Nat} {ts : List Token} {i j : Nat} :
    (i, j) ∈ pairsFrom stack ts
      ↔ (∃ k, stack[k]? = some i ∧ closingIndex? (k + 1) ts = some j) ∨ Paired ts i j := by
  induction ts generalizing stack with
  | nil =>
      refine iff_of_false List.not_mem_nil ?_
      rintro (⟨k, -, h⟩ | ⟨before, o, after, h, -⟩)
      · cases h
      · cases before <;> cases h
  | cons t ts ih =>
      have hother : t.isSyntax '(' = false → (Paired (t :: ts) i j ↔ Paired ts i j) := by
        intro hopen
        rw [paired_cons, hopen]
        exact or_iff_right fun h => Bool.noConfusion h.1
      rcases t.paren_cases with ⟨hopen, -⟩ | ⟨hopen, hclose, -⟩ | ⟨hopen, hclose, -⟩
      · -- the group that `t` opens comes to lie on top
        rw [pairsFrom_open stack ts hopen, ih, exists_depth_cons, paired_cons]
        simp only [closingIndex?_open ts _ hopen, hopen, true_and]
        rw [or_assoc, or_left_comm]
      · rw [hother hopen]
        cases stack with
        | nil =>
            rw [pairsFrom_close_nil ts hclose, ih]
            simp
        | cons s stack =>
            -- the group on top is closed here, and the others lie one less deep
            have htop : closingIndex? (0 + 1) (t :: ts) = some t.index := closingIndex?_last ts hclose
            have hpair : (i, j) = (s, t.index) ↔ s = i ∧ some t.index = some j := by
              rw [Prod.mk.injEq, Option.some_inj, eq_comm, eq_comm (a := j)]
            rw [pairsFrom_close_cons stack ts hclose s, List.mem_cons, ih, exists_depth_cons, hpair,
              htop, or_assoc]
            simp only [closingIndex?_close ts _ hclose]
      · rw [hother hopen, pairsFrom_other stack ts hopen hclose, ih]
        simp only [closingIndex?_other ts _ hopen hclose]

theorem mem_pairs_iff {pattern : Text} {i j : Nat} :
    (i, j) ∈ pairs pattern ↔ Paired (tokens pattern) i j := by
  rw [pairs, mem_pairsFrom_iff]
  refine or_iff_right ?_
  rintro ⟨k, h, -⟩
  cases h

/-! ## The end of a group -/

variable {pattern : Text} {before after : List Token} {o : Token} {i j : Nat}

/-- A fresh walk behind a character that is syntax reads what the whole walk reads there. -/
theorem tokens_behind {c : Char} (hts : tokens pattern = before ++ o :: after)
    (ho : o.isSyntax c = true) : (Walk.start pattern (o.index + 1)).tokens = after := by
  have hmem : o ∈ tokens pattern := by
    rw [hts]
    exact List.mem_append_right before List.mem_cons_self
  obtain ⟨a, d, b, hpattern, hd⟩ := mem_tokens_iff.mp hmem
  rw [hd] at ho
  obtain ⟨hmode, hplain, -⟩ := isSyntax_tokenIn.mp ho
  have hindex : o.index = a.length := by rw [hd]; rfl
  have hrest : (Walk.start pattern (o.index + 1)).rest = b := by
    show pattern.drop (o.index + 1) = b
    rw [hindex, hpattern, ← List.drop_drop, List.drop_left]
    rfl
  have hwhole : tokens pattern = tokensFrom 0 .outside a (d :: b)
      ++ o :: tokensFrom (o.index + 1) .outside b [] := by
    rw [tokens_eq, hindex, hpattern, tokensFrom_append, List.append_nil, hmode, tokensFrom,
      List.append_nil, Mode.read_plain hplain, Nat.zero_add, hd, hmode]
  rw [(Walk.start_is pattern (o.index + 1)).tokens_eq, hrest]
  exact (split_unique hwhole hts rfl).2.2

theorem groupEnd?_of_tokens (hts : tokens pattern = before ++ o :: after)
    (ho : o.isSyntax '(' = true) : groupEnd? pattern o.index = closingIndex? 1 after := by
  rw [groupEnd?, tokens_behind hts ho]

/-- **The two ways agree on every group.** -/
theorem groupEnd?_eq_some_iff (hi : i ∈ syntaxOffsets pattern '(') :
    groupEnd? pattern i = some j ↔ (i, j) ∈ pairs pattern := by
  obtain ⟨before, o, after, hts, ho, rfl⟩ := mem_syntaxOffsets.mp hi
  rw [groupEnd?_of_tokens hts ho, mem_pairs_iff]
  constructor
  · intro h
    exact ⟨before, o, after, hts, ho, rfl, h⟩
  · rintro ⟨before', o', after', hts', -, hindex, h⟩
    obtain ⟨-, -, rfl⟩ := split_unique hts' hts hindex
    exact h

/-- Only parentheses are paired, a `(` with a `)`. -/
theorem syntaxOffsets_of_mem_pairs (h : (i, j) ∈ pairs pattern) :
    i ∈ syntaxOffsets pattern '(' ∧ j ∈ syntaxOffsets pattern ')' := by
  obtain ⟨before, o, after, hts, ho, hi, hclosed⟩ := mem_pairs_iff.mp h
  obtain ⟨between, c, rest, rfl, hc, hj, -⟩ := closingIndex?_eq_some_iff.mp hclosed
  refine ⟨mem_syntaxOffsets.mpr ⟨before, o, _, hts, ho, hi⟩, mem_syntaxOffsets.mpr ?_⟩
  exact ⟨before ++ o :: between, c, rest, by rw [hts]; simp, hc, hj⟩

/-! ## Balance -/

theorem mem_pairs_iff_between : (i, j) ∈ pairs pattern
    ↔ ∃ before o between c after, tokens pattern = before ++ o :: (between ++ c :: after)
      ∧ o.isSyntax '(' = true ∧ o.index = i ∧ c.isSyntax ')' = true ∧ c.index = j
      ∧ openBehind 0 between = some 0 := by
  rw [mem_pairs_iff]
  constructor
  · rintro ⟨before, o, rest, hts, ho, hi, hclosed⟩
    obtain ⟨between, c, after, rfl, hc, hj, hbetween⟩ := closingIndex?_eq_some_iff.mp hclosed
    exact ⟨before, o, between, c, after, hts, ho, hi, hc, hj, hbetween⟩
  · rintro ⟨before, o, between, c, after, hts, ho, hi, hc, hj, hbetween⟩
    refine ⟨before, o, between ++ c :: after, hts, ho, hi, closingIndex?_eq_some_iff.mpr ?_⟩
    exact ⟨between, c, after, rfl, hc, hj, hbetween⟩

/-- What follows a `(` in a Dyck word is none itself. -/
theorem openBehind_ne_of_dyck (ho : o.isSyntax '(' = true)
    (h : openBehind 0 (before ++ o :: after) = some 0) : openBehind 0 after ≠ some 0 := by
  intro hafter
  obtain ⟨i, hi⟩ := exists_closing ho h
  rw [closingIndex?_eq_none_iff.mpr ⟨0, hafter⟩] at hi
  cases hi

theorem le_of_mem_pairs {i' : Nat} (h : (i, j) ∈ pairs pattern) (h' : (i', j) ∈ pairs pattern) :
    i' ≤ i := by
  obtain ⟨before, o, between, c, after, hts, ho, rfl, hc, hj, hbetween⟩ :=
    mem_pairs_iff_between.mp h
  obtain ⟨before', o', between', c', after', hts', ho', rfl, -, hj', hbetween'⟩ :=
    mem_pairs_iff_between.mp h'
  by_contra hlt
  -- the `(` that comes second stands in the Dyck word behind the first
  obtain ⟨middle, rfl⟩ := exists_between hts hts' (Nat.not_le.mp hlt)
  have hfront : tokens pattern = (before ++ o :: between) ++ c :: after := by rw [hts]; simp
  have hfront' : tokens pattern = ((before ++ o :: middle) ++ o' :: between') ++ c' :: after' := by
    rw [hts']
    simp
  have hsame := (split_unique hfront hfront' (hj.trans hj'.symm)).1
  have hwords : between = middle ++ o' :: between' := by simpa using hsame
  rw [hwords] at hbetween
  exact openBehind_ne_of_dyck ho' hbetween hbetween'

theorem eq_of_mem_pairs {i' : Nat} (h : (i, j) ∈ pairs pattern) (h' : (i', j) ∈ pairs pattern) :
    i' = i :=
  Nat.le_antisymm (le_of_mem_pairs h h') (le_of_mem_pairs h' h)

section Dyck

variable (h : openBehind 0 (tokens pattern) = some 0)
include h

/-- In a balanced pattern every `(` is paired. -/
theorem exists_pair_of_open (hi : i ∈ syntaxOffsets pattern '(') : ∃ j, (i, j) ∈ pairs pattern := by
  obtain ⟨before, o, after, hts, ho, hindex⟩ := mem_syntaxOffsets.mp hi
  rw [hts] at h
  obtain ⟨j, hclosed⟩ := exists_closing ho h
  exact ⟨j, mem_pairs_iff.mpr ⟨before, o, after, hts, ho, hindex, hclosed⟩⟩

/-- In a balanced pattern every `)` is paired. -/
theorem exists_pair_of_close (hj : j ∈ syntaxOffsets pattern ')') :
    ∃ i, (i, j) ∈ pairs pattern := by
  obtain ⟨front, c, after, hts, hc, rfl⟩ := mem_syntaxOffsets.mp hj
  rw [hts] at h
  obtain ⟨d, hfront, hrest⟩ := openBehind_append_eq_some.mp h
  cases d with
  | zero =>
      rw [openBehind_close_zero after hc] at hrest
      cases hrest
  | succ k =>
      obtain ⟨before, o, between, rfl, ho, -, hbetween⟩ := exists_open (m := 0) hfront
      refine ⟨o.index, mem_pairs_iff_between.mpr ?_⟩
      exact ⟨before, o, between, c, after, by rw [hts]; simp, ho, rfl, hc, rfl, hbetween⟩

end Dyck

/-- The first `)` too many is not paired. -/
theorem exists_lone_close (h : openBehind 0 (tokens pattern) = none) :
    ∃ j ∈ syntaxOffsets pattern ')', ∀ i, (i, j) ∉ pairs pattern := by
  cases hclosed : closingIndex? 1 (tokens pattern) with
  | none =>
      obtain ⟨e, he⟩ := closingIndex?_eq_none_iff.mp hclosed
      rw [h] at he
      cases he
  | some j =>
      obtain ⟨front, c, rest, hts, hc, hj, hfront⟩ := closingIndex?_eq_some_iff.mp hclosed
      refine ⟨j, mem_syntaxOffsets.mpr ⟨front, c, rest, hts, hc, hj⟩, fun i hpair => ?_⟩
      obtain ⟨before, o, between, c', after, hts', ho, -, -, hj', hbetween⟩ :=
        mem_pairs_iff_between.mp hpair
      have hcut : tokens pattern = (before ++ o :: between) ++ c' :: after := by rw [hts']; simp
      obtain ⟨rfl, -⟩ := split_unique hts hcut (hj.trans hj'.symm)
      exact openBehind_ne_of_dyck ho hfront hbetween

/-- The first group that stays open is not paired. -/
theorem exists_lone_open {e : Nat} (h : openBehind 0 (tokens pattern) = some (e + 1)) :
    ∃ i ∈ syntaxOffsets pattern '(', ∀ j, (i, j) ∉ pairs pattern := by
  have hdepth : openBehind 0 (tokens pattern) = some (0 + 1 + e) := by
    rw [h, Nat.zero_add, Nat.add_comm]
  obtain ⟨before, o, after, hts, ho, -, hafter⟩ := exists_open hdepth
  refine ⟨o.index, mem_syntaxOffsets.mpr ⟨before, o, after, hts, ho, rfl⟩, fun j hpair => ?_⟩
  obtain ⟨before', o', after', hts', -, hindex, hclosed⟩ := mem_pairs_iff.mp hpair
  obtain ⟨-, -, rfl⟩ := split_unique hts' hts hindex
  rw [closingIndex?_eq_none_iff.mpr ⟨e, hafter⟩] at hclosed
  cases hclosed

/-- A pattern is balanced if the stack pairs every parenthesis. -/
theorem isValid_iff_paired : (balance pattern).isValid = true
    ↔ (∀ i ∈ syntaxOffsets pattern '(', ∃ j, (i, j) ∈ pairs pattern)
      ∧ ∀ j ∈ syntaxOffsets pattern ')', ∃ i, (i, j) ∈ pairs pattern := by
  rw [Balance.isValid_iff (balance_finds pattern)]
  constructor
  · intro h
    exact ⟨fun i => exists_pair_of_open h, fun j => exists_pair_of_close h⟩
  · rintro ⟨hopeners, hclosers⟩
    match h : openBehind 0 (tokens pattern) with
    | none =>
      obtain ⟨j, hj, hlone⟩ := exists_lone_close h
      obtain ⟨i, hpair⟩ := hclosers j hj
      exact absurd hpair (hlone i)
    | some 0 => rfl
    | some (e + 1) =>
      obtain ⟨i, hi, hlone⟩ := exists_lone_open h
      obtain ⟨j, hpair⟩ := hopeners i hi
      exact absurd hpair (hlone j)

/--
**The end of a group is where a stack pairs its `(`.**

For every `(` of a pattern, the fresh walk behind it finds the `)` that a stack pairs with it in a
walk over the whole pattern, and finds none exactly if the stack pairs none. So a pattern is
balanced exactly if each of its groups has an end and each of its `)` is the end of exactly one
group.
-/
theorem groupEnd?_pairs (pattern : Text) :
    (∀ i ∈ syntaxOffsets pattern '(',
        (∀ j, groupEnd? pattern i = some j ↔ (i, j) ∈ pairs pattern)
          ∧ (groupEnd? pattern i = none ↔ ∀ j, (i, j) ∉ pairs pattern))
      ∧ (∀ i j, (i, j) ∈ pairs pattern →
        i ∈ syntaxOffsets pattern '(' ∧ j ∈ syntaxOffsets pattern ')')
      ∧ ((balance pattern).isValid = true ↔
        (∀ i ∈ syntaxOffsets pattern '(', ∃ j ∈ syntaxOffsets pattern ')',
          groupEnd? pattern i = some j)
        ∧ ∀ j ∈ syntaxOffsets pattern ')', ∃! i, i ∈ syntaxOffsets pattern '('
          ∧ groupEnd? pattern i = some j) := by
  have hends : ∀ i ∈ syntaxOffsets pattern '(', ∀ j,
      groupEnd? pattern i = some j ↔ (i, j) ∈ pairs pattern :=
    fun i hi j => groupEnd?_eq_some_iff hi
  refine ⟨fun i hi => ⟨hends i hi, ?_⟩, fun i j => syntaxOffsets_of_mem_pairs, ?_⟩
  · rw [Option.eq_none_iff_forall_ne_some]
    exact forall_congr' fun j => not_congr (hends i hi j)
  rw [isValid_iff_paired]
  refine and_congr (forall₂_congr fun i hi => ?_) (forall₂_congr fun j hj => ?_)
  · constructor
    · rintro ⟨j, hpair⟩
      exact ⟨j, (syntaxOffsets_of_mem_pairs hpair).2, (hends i hi j).mpr hpair⟩
    · rintro ⟨j, -, hend⟩
      exact ⟨j, (hends i hi j).mp hend⟩
  · constructor
    · rintro ⟨i, hpair⟩
      have hi := (syntaxOffsets_of_mem_pairs hpair).1
      refine ⟨i, ⟨hi, (hends i hi j).mpr hpair⟩, ?_⟩
      rintro i' ⟨hi', hend'⟩
      exact eq_of_mem_pairs hpair ((hends i' hi' j).mp hend')
    · rintro ⟨i, ⟨hi, hend⟩, -⟩
      exact ⟨i, (hends i hi j).mp hend⟩

/-- Unmatched parentheses on either side, and one in a class, leave the pair between them alone. -/
example : pairs ")(()[(]".toList = [(2, 3)] := by
  decide +kernel

end SecretScan.Pattern
