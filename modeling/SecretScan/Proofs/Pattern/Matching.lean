import Mathlib.Combinatorics.Enumerative.DyckWord
import Mathlib.Data.List.Induction
import Mathlib.Order.Bounds.Basic
import SecretScan.Proofs.Pattern.Lexing
import SecretScan.Proofs.Pattern.Nesting

/-!
# Parentheses that match

Nothing but its parentheses matters for the balance of a pattern, so they are taken as the steps of
a path that goes up and down. They balance if the path is a Dyck word. A `(` and a `)` match if
what stands between them is one.

The balance check keeps a stack instead. `openBehind` ties the two together: it counts the groups
open behind some tokens, and it is defined exactly as long as the path stays above the ground
(`openBehind_eq_some_iff`). Where the path goes below is where the check meets a `)` too many
(`closingIndex?_eq_some_iff`), and the bottom of the stack is where the path leaves the ground for
the last time (`exists_open`). With these, the check decides balance and names the right place
(`balance_decides`).
-/

namespace SecretScan.Pattern

/-! ## Parentheses as steps -/

/-- A parenthesis as a step. -/
def Token.step? (t : Token) : Option DyckStep :=
  if t.isSyntax '(' then some .U
  else if t.isSyntax ')' then some .D
  else none

/-- The parentheses among tokens. -/
def parens (ts : List Token) : List DyckStep :=
  ts.filterMap Token.step?

/-- How many `(` are among tokens. -/
def opened (ts : List Token) : Nat :=
  (parens ts).count .U

/-- How many `)` are among tokens. -/
def closed (ts : List Token) : Nat :=
  (parens ts).count .D

/-- There are more `)` than `(`. -/
def Overdrawn (ts : List Token) : Prop :=
  opened ts < closed ts

/-- The parentheses make up a Dyck word. -/
def IsDyck (ts : List Token) : Prop :=
  ∃ word : DyckWord, word.toList = parens ts

theorem opened_append (ts us : List Token) : opened (ts ++ us) = opened ts + opened us := by
  rw [opened, parens, List.filterMap_append, List.count_append]
  rfl

theorem closed_append (ts us : List Token) : closed (ts ++ us) = closed ts + closed us := by
  rw [closed, parens, List.filterMap_append, List.count_append]
  rfl

/-- A token is a `(`, a `)` or no parenthesis. -/
theorem Token.paren_cases (t : Token) :
    (t.isSyntax '(' = true ∧ opened [t] = 1 ∧ closed [t] = 0)
      ∨ (t.isSyntax '(' = false ∧ t.isSyntax ')' = true ∧ opened [t] = 0 ∧ closed [t] = 1)
      ∨ (t.isSyntax '(' = false ∧ t.isSyntax ')' = false ∧ opened [t] = 0 ∧ closed [t] = 0) := by
  unfold opened closed parens
  rw [List.filterMap_cons, List.filterMap_nil, step?]
  cases t.isSyntax '(' with
  | true => exact .inl ⟨rfl, rfl, rfl⟩
  | false =>
      cases t.isSyntax ')' with
      | true => exact .inr (.inl ⟨rfl, rfl, rfl, rfl⟩)
      | false => exact .inr (.inr ⟨rfl, rfl, rfl, rfl⟩)

theorem Token.not_open_of_close {t : Token} (h : t.isSyntax ')' = true) :
    t.isSyntax '(' = false := by
  have hmark := isSyntax_iff.mp h
  rw [Bool.eq_false_iff, Ne, isSyntax_iff, hmark]
  decide

theorem Token.count_of_close {t : Token} (h : t.isSyntax ')' = true) :
    opened [t] = 0 ∧ closed [t] = 1 := by
  rcases t.paren_cases with ⟨hopen, -⟩ | ⟨-, -, hcount⟩ | ⟨-, hclose, -⟩
  · rw [t.not_open_of_close h] at hopen
    cases hopen
  · exact hcount
  · rw [h] at hclose
    cases hclose

theorem isDyck_iff_fronts {ts : List Token} :
    IsDyck ts ↔ (∀ front, front <+: ts → ¬ Overdrawn front) ∧ closed ts = opened ts := by
  constructor
  · rintro ⟨word, hword⟩
    refine ⟨fun front hfront hover => ?_, ?_⟩
    · have hpre : parens front <+: word.toList := hword ▸ hfront.filterMap Token.step?
      have hle := word.count_D_le_count_U (parens front).length
      rw [← List.prefix_iff_eq_take.mp hpre] at hle
      exact absurd hover (Nat.not_lt.mpr hle)
    · rw [closed, opened, ← hword]
      exact word.count_U_eq_count_D.symm
  · rintro ⟨hfronts, hcount⟩
    refine ⟨⟨parens ts, hcount.symm, fun i => ?_⟩, rfl⟩
    obtain ⟨front, hfront, htake⟩ := List.prefix_filterMap_iff.mp (List.take_prefix i (parens ts))
    have hle := Nat.not_lt.mp (hfronts front hfront)
    rw [htake]
    exact hle

/-! ## Groups open behind tokens -/

/-- How many groups are open behind tokens when `depth` are open before them. -/
def openBehind (depth : Nat) (ts : List Token) : Option Nat :=
  nesting depth (ts.map Token.mark)

theorem openBehind_append_eq_some {depth e : Nat} {ts us : List Token} :
    openBehind depth (ts ++ us) = some e
      ↔ ∃ d, openBehind depth ts = some d ∧ openBehind d us = some e := by
  rw [openBehind, List.map_append, nesting_append, Option.bind_eq_some_iff]
  rfl

section OpenBehind

variable {t : Token} (d : Nat) (ts : List Token)

theorem openBehind_open (h : t.isSyntax '(' = true) :
    openBehind d (t :: ts) = openBehind (d + 1) ts := by
  rw [openBehind, List.map_cons, Token.isSyntax_iff.mp h]
  rfl

theorem openBehind_close_zero (h : t.isSyntax ')' = true) : openBehind 0 (t :: ts) = none := by
  rw [openBehind, List.map_cons, Token.isSyntax_iff.mp h]
  rfl

theorem openBehind_close_succ (h : t.isSyntax ')' = true) :
    openBehind (d + 1) (t :: ts) = openBehind d ts := by
  rw [openBehind, List.map_cons, Token.isSyntax_iff.mp h]
  rfl

theorem openBehind_other (hopen : t.isSyntax '(' = false) (hclose : t.isSyntax ')' = false) :
    openBehind d (t :: ts) = openBehind d ts := by
  have hne : t.mark ≠ ('(', .char) := by
    rw [Ne, ← Token.isSyntax_iff, hopen]
    nofun
  have hne' : t.mark ≠ (')', .char) := by
    rw [Ne, ← Token.isSyntax_iff, hclose]
    nofun
  exact nesting_other hne hne' d (ts.map Token.mark)

end OpenBehind

/-- One token moves the count by its step, and does not lead below zero. -/
theorem openBehind_singleton {d e : Nat} {t : Token} :
    openBehind d [t] = some e ↔ e + closed [t] = d + opened [t] := by
  have hnil : ∀ d, openBehind d [] = some e ↔ d = e := fun d => Option.some_inj
  rcases t.paren_cases with ⟨hopen, ho, hc⟩ | ⟨-, hclose, ho, hc⟩ | ⟨hopen, hclose, ho, hc⟩
  · rw [openBehind_open d [] hopen, hnil]
    omega
  · cases d with
    | zero =>
        rw [openBehind_close_zero [] hclose]
        exact iff_of_false nofun (by omega)
    | succ d =>
        rw [openBehind_close_succ d [] hclose, hnil]
        omega
  · rw [openBehind_other d [] hopen hclose, hnil]
    omega

theorem openBehind_concat_eq_some {depth e : Nat} {ts : List Token} {t : Token} :
    openBehind depth (ts ++ [t]) = some e
      ↔ ∃ d, openBehind depth ts = some d ∧ e + closed [t] = d + opened [t] := by
  rw [openBehind_append_eq_some]
  exact exists_congr fun d => and_congr_right fun _ => openBehind_singleton

/-- The count is defined as long as no front has more `)` than `(`. -/
theorem openBehind_eq_some_iff {ts : List Token} {e : Nat} :
    openBehind 0 ts = some e
      ↔ (∀ front, front <+: ts → ¬ Overdrawn front) ∧ e + closed ts = opened ts := by
  induction ts using List.reverseRecOn generalizing e with
  | nil =>
      have hnil : openBehind 0 [] = some 0 := rfl
      have hground : ¬ Overdrawn [] := Nat.lt_irrefl 0
      rw [hnil, Option.some.injEq]
      constructor
      · rintro rfl
        exact ⟨fun front hfront => List.prefix_nil.mp hfront ▸ hground, rfl⟩
      · rintro ⟨-, hcount⟩
        exact hcount.symm
  | append_singleton ts t ih =>
      rw [openBehind_concat_eq_some, closed_append, opened_append]
      constructor
      · rintro ⟨d, hd, hstep⟩
        obtain ⟨hfronts, hcount⟩ := ih.mp hd
        refine ⟨fun front hfront => ?_, by omega⟩
        rcases List.prefix_concat_iff.mp hfront with rfl | hfront
        · unfold Overdrawn
          rw [closed_append, opened_append]
          omega
        · exact hfronts front hfront
      · rintro ⟨hfronts, hcount⟩
        have hts : ¬ Overdrawn ts := hfronts ts (List.prefix_append ts [t])
        unfold Overdrawn at hts
        refine ⟨opened ts - closed ts, ih.mpr ⟨fun front hfront => ?_, by omega⟩, by omega⟩
        exact hfronts front (hfront.trans (List.prefix_append ts [t]))

theorem isDyck_iff {ts : List Token} : IsDyck ts ↔ openBehind 0 ts = some 0 := by
  rw [isDyck_iff_fronts, openBehind_eq_some_iff, Nat.zero_add]

/-- What is open before some tokens stays open if they leave it alone. -/
theorem openBehind_add {d e : Nat} {ts : List Token} (h : openBehind d ts = some e) (k : Nat) :
    openBehind (d + k) ts = some (e + k) := by
  induction ts using List.reverseRecOn generalizing e with
  | nil =>
      obtain rfl : d = e := Option.some.inj h
      rfl
  | append_singleton ts t ih =>
      obtain ⟨x, hx, hstep⟩ := openBehind_concat_eq_some.mp h
      exact openBehind_concat_eq_some.mpr ⟨x + k, ih hx, by omega⟩

/-- **The groups that are still open**, counted from the outermost: in front of the `(` of such a
group are those around it, and behind it those in it. -/
theorem exists_open {ts : List Token} {k m : Nat} (h : openBehind 0 ts = some (k + 1 + m)) :
    ∃ before o after, ts = before ++ o :: after ∧ o.isSyntax '(' = true
      ∧ openBehind 0 before = some k ∧ openBehind 0 after = some m := by
  induction ts using List.reverseRecOn generalizing m with
  | nil =>
      have hnil := Option.some.inj h
      omega
  | append_singleton ts t ih =>
      obtain ⟨d, hd, hstep⟩ := openBehind_concat_eq_some.mp h
      -- the group is opened by `t` itself, or by a token before `t`
      have earlier : ∀ m', d = k + 1 + m' → m + closed [t] = m' + opened [t] →
          ∃ before o after, ts ++ [t] = before ++ o :: after ∧ o.isSyntax '(' = true
            ∧ openBehind 0 before = some k ∧ openBehind 0 after = some m := by
        rintro m' rfl hm
        obtain ⟨before, o, after, rfl, ho, hbefore, hafter⟩ := ih hd
        refine ⟨before, o, after ++ [t], by simp, ho, hbefore, ?_⟩
        exact openBehind_concat_eq_some.mpr ⟨m', hafter, hm⟩
      rcases t.paren_cases with ⟨hopen, ho, hc⟩ | ⟨-, -, ho, hc⟩ | ⟨-, -, ho, hc⟩
      · cases m with
        | zero =>
            obtain rfl : d = k := by omega
            exact ⟨ts, t, [], rfl, hopen, hd, rfl⟩
        | succ m => exact earlier m (by omega) (by omega)
      · exact earlier (m + 1) (by omega) (by omega)
      · exact earlier m (by omega) (by omega)

/-! ## Where a group is closed -/

section Closing

variable {t : Token} (ts : List Token) (d : Nat)

theorem closingIndex?_open (h : t.isSyntax '(' = true) :
    closingIndex? d (t :: ts) = closingIndex? (d + 1) ts := by
  rw [closingIndex?, if_pos h]

theorem closingIndex?_last (h : t.isSyntax ')' = true) :
    closingIndex? 1 (t :: ts) = some t.index := by
  rw [closingIndex?, if_neg (Bool.eq_false_iff.mp (t.not_open_of_close h)), if_pos h]
  rfl

theorem closingIndex?_close (h : t.isSyntax ')' = true) :
    closingIndex? (d + 2) (t :: ts) = closingIndex? (d + 1) ts := by
  rw [closingIndex?, if_neg (Bool.eq_false_iff.mp (t.not_open_of_close h)), if_pos h,
    if_neg (by omega)]
  rfl

theorem closingIndex?_other (hopen : t.isSyntax '(' = false) (hclose : t.isSyntax ')' = false) :
    closingIndex? d (t :: ts) = closingIndex? d ts := by
  rw [closingIndex?, hopen, hclose]
  rfl

end Closing

/-- A place in a list is its front or lies behind that. -/
theorem exists_place_cons {α : Type} {P : List α → α → List α → Prop} {x : α} {xs : List α} :
    (∃ before y after, x :: xs = before ++ y :: after ∧ P before y after)
      ↔ P [] x xs ∨ ∃ before y after, xs = before ++ y :: after ∧ P (x :: before) y after := by
  constructor
  · rintro ⟨before, y, after, h, hP⟩
    cases before with
    | nil =>
        obtain ⟨rfl, rfl⟩ := List.cons.inj h
        exact .inl hP
    | cons z before =>
        obtain ⟨rfl, rfl⟩ := List.cons.inj h
        exact .inr ⟨before, y, after, rfl, hP⟩
  · rintro (hP | ⟨before, y, after, rfl, hP⟩)
    · exact ⟨[], x, xs, rfl, hP⟩
    · exact ⟨x :: before, y, after, rfl, hP⟩

/-- **Groups are all closed at the first `)` behind as many closed as are open.** -/
theorem closingIndex?_eq_some_iff {d i : Nat} {ts : List Token} :
    closingIndex? (d + 1) ts = some i
      ↔ ∃ before c after, ts = before ++ c :: after
        ∧ c.isSyntax ')' = true ∧ c.index = i ∧ openBehind d before = some 0 := by
  induction ts generalizing d with
  | nil =>
      refine iff_of_false nofun ?_
      rintro ⟨before, c, after, h, -⟩
      cases before <;> cases h
  | cons t ts ih =>
      have hnil : openBehind d [] = some 0 ↔ d = 0 := Option.some_inj
      rw [exists_place_cons, hnil]
      rcases t.paren_cases with ⟨hopen, -⟩ | ⟨-, hclose, -⟩ | ⟨hopen, hclose, -⟩
      · have hclose : ¬ t.isSyntax ')' = true := by
          intro hclose
          rw [t.not_open_of_close hclose] at hopen
          cases hopen
        rw [closingIndex?_open ts (d + 1) hopen, ih, or_iff_right fun h => hclose h.1]
        simp only [openBehind_open d _ hopen]
      · cases d with
        | zero =>
            rw [closingIndex?_last ts hclose]
            simp only [openBehind_close_zero _ hclose, hclose]
            simp
        | succ d =>
            rw [closingIndex?_close ts d hclose, ih, or_iff_right fun h => absurd h.2.2 (by omega)]
            simp only [openBehind_close_succ d _ hclose]
      · have hclose' : ¬ t.isSyntax ')' = true := by
          rw [hclose]
          nofun
        rw [closingIndex?_other ts (d + 1) hopen hclose, ih, or_iff_right fun h => hclose' h.1]
        simp only [openBehind_other d _ hopen hclose]

/-- A group is closed unless the text behind its `(` leaves it alone. -/
theorem closingIndex?_eq_none_iff {d : Nat} {ts : List Token} :
    closingIndex? (d + 1) ts = none ↔ ∃ e, openBehind d ts = some e := by
  rw [← Option.not_isSome_iff_eq_none, closingIndex?_isSome, Option.isNone_iff_eq_none,
    ← Ne, Option.ne_none_iff_exists']
  rfl

theorem closingIndex?_append {d i : Nat} {ts : List Token} (h : closingIndex? (d + 1) ts = some i)
    (us : List Token) : closingIndex? (d + 1) (ts ++ us) = some i := by
  obtain ⟨before, c, after, rfl, hc, hi, hbefore⟩ := closingIndex?_eq_some_iff.mp h
  exact closingIndex?_eq_some_iff.mpr ⟨before, c, after ++ us, by simp, hc, hi, hbefore⟩

/-- In a Dyck word every group is closed. -/
theorem exists_closing {before after : List Token} {o : Token} (ho : o.isSyntax '(' = true)
    (h : openBehind 0 (before ++ o :: after) = some 0) : ∃ i, closingIndex? 1 after = some i := by
  obtain ⟨k, -, hk⟩ := openBehind_append_eq_some.mp h
  rw [openBehind_open k after ho] at hk
  cases hi : closingIndex? 1 after with
  | some i => exact ⟨i, rfl⟩
  | none =>
      -- then the group stays open
      obtain ⟨e, he⟩ := closingIndex?_eq_none_iff.mp hi
      have hopen := openBehind_add he (k + 1)
      rw [Nat.zero_add, hk, Option.some.injEq] at hopen
      omega

/-! ## Matching -/

/-- The `(` and the `)` with a Dyck word between them. -/
def Matches (ts : List Token) (o c : Token) : Prop :=
  o.isSyntax '(' = true ∧ c.isSyntax ')' = true
    ∧ ∃ before between after, ts = before ++ o :: (between ++ c :: after) ∧ IsDyck between

theorem exists_matches_iff {ts : List Token} {o : Token} {i : Nat} :
    (∃ c, Matches ts o c ∧ c.index = i)
      ↔ o.isSyntax '(' = true ∧ ∃ before after, ts = before ++ o :: after
        ∧ closingIndex? 1 after = some i := by
  constructor
  · rintro ⟨c, ⟨ho, hc, before, between, after, hts, hdyck⟩, hi⟩
    refine ⟨ho, before, between ++ c :: after, hts, closingIndex?_eq_some_iff.mpr ?_⟩
    exact ⟨between, c, after, rfl, hc, hi, isDyck_iff.mp hdyck⟩
  · rintro ⟨ho, before, rest, rfl, hrest⟩
    obtain ⟨between, c, after, rfl, hc, hi, hbetween⟩ := closingIndex?_eq_some_iff.mp hrest
    exact ⟨c, ⟨ho, hc, before, between, after, rfl, isDyck_iff.mpr hbetween⟩, hi⟩

/-! ## Offsets of tokens -/

section Offsets

variable {pattern : Text} {before before' after after' : List Token} {t t' : Token}

/-- The offset of a token says how many are in front of it. -/
theorem index_of_tokens (h : tokens pattern = before ++ t :: after) : t.index = before.length := by
  have hindex := tokensFrom_map_index 0 .outside pattern []
  rw [← tokens_eq, h] at hindex
  have hplace := congrArg (·[before.length]?) hindex
  have hlt : before.length < pattern.length := by
    have hlength := congrArg List.length hindex
    simp only [List.length_map, List.length_append, List.length_cons, List.length_range'] at hlength
    omega
  simpa [List.getElem?_range', hlt] using hplace

/-- A pattern is split in one way in front of an offset. -/
theorem split_unique (h : tokens pattern = before ++ t :: after)
    (h' : tokens pattern = before' ++ t' :: after') (hi : t.index = t'.index) :
    before = before' ∧ t = t' ∧ after = after' := by
  rw [index_of_tokens h, index_of_tokens h'] at hi
  obtain ⟨hbefore, hrest⟩ := List.append_inj (h.symm.trans h') hi
  obtain ⟨ht, hafter⟩ := List.cons.inj hrest
  exact ⟨hbefore, ht, hafter⟩

/-- A token with a smaller offset comes first. -/
theorem exists_between (h : tokens pattern = before ++ t :: after)
    (h' : tokens pattern = before' ++ t' :: after') (hi : t.index < t'.index) :
    ∃ between, before' = before ++ t :: between := by
  rw [index_of_tokens h, index_of_tokens h'] at hi
  have hpre : before ++ [t] <+: tokens pattern := ⟨after, by rw [h]; simp⟩
  have hpre' : before' <+: tokens pattern := ⟨t' :: after', h'.symm⟩
  have hlength : (before ++ [t]).length ≤ before'.length := by
    rw [List.length_append]
    exact hi
  obtain ⟨between, hbetween⟩ := List.prefix_of_prefix_length_le hpre hpre' hlength
  exact ⟨between, by rw [← hbetween]; simp⟩

end Offsets

/-! ## The balance check -/

namespace Balance

section Steps

variable {t : Token} (stack : List Nat) (ts : List Token)

theorem ofTokens_cons_open (h : t.isSyntax '(' = true) :
    ofTokens stack (t :: ts) = ofTokens (t.index :: stack) ts :=
  if_pos h

theorem ofTokens_cons_close_nil (h : t.isSyntax ')' = true) :
    ofTokens [] (t :: ts) = .unmatchedClose t.index := by
  rw [ofTokens, if_neg (Bool.eq_false_iff.mp (t.not_open_of_close h)), if_pos h]

theorem ofTokens_cons_close (h : t.isSyntax ')' = true) (i : Nat) :
    ofTokens (i :: stack) (t :: ts) = ofTokens stack ts := by
  rw [ofTokens, if_neg (Bool.eq_false_iff.mp (t.not_open_of_close h)), if_pos h]

theorem ofTokens_cons_other (hopen : t.isSyntax '(' = false) (hclose : t.isSyntax ')' = false) :
    ofTokens stack (t :: ts) = ofTokens stack ts := by
  rw [ofTokens.eq_def]
  dsimp only
  rw [hopen, hclose]
  rfl

end Steps

/-- The check meets a `)` too many where all the groups on its stack would be closed, and one
more. -/
theorem ofTokens_eq_unmatchedClose_iff {stack : List Nat} {ts : List Token} {i : Nat} :
    ofTokens stack ts = .unmatchedClose i ↔ closingIndex? (stack.length + 1) ts = some i := by
  induction ts generalizing stack with
  | nil =>
      have hopen : ofTokens stack [] ≠ .unmatchedClose i := by
        intro h
        unfold ofTokens at h
        cases hlast : stack.getLast? with
        | none =>
            rw [hlast] at h
            cases h
        | some j =>
            rw [hlast] at h
            cases h
      refine iff_of_false hopen fun h => ?_
      cases h
  | cons t ts ih =>
      rcases t.paren_cases with ⟨hopen, -⟩ | ⟨-, hclose, -⟩ | ⟨hopen, hclose, -⟩
      · rw [ofTokens_cons_open stack ts hopen, ih, closingIndex?_open ts _ hopen]
        rfl
      · cases stack with
        | nil =>
            rw [ofTokens_cons_close_nil ts hclose, List.length_nil, closingIndex?_last ts hclose,
              Option.some_inj]
            exact ⟨fun h => Balance.unmatchedClose.inj h, fun h => h ▸ rfl⟩
        | cons j stack =>
            rw [ofTokens_cons_close stack ts hclose j, ih, List.length_cons,
              closingIndex?_close ts stack.length hclose]
      · rw [ofTokens_cons_other stack ts hopen hclose, ih,
          closingIndex?_other ts (stack.length + 1) hopen hclose]

/-- What lies on the stack below the groups that some tokens touch matters only for what comes after
them. -/
theorem ofTokens_append {top : List Nat} {ts : List Token} {e : Nat}
    (h : openBehind top.length ts = some e) (stack : List Nat) (us : List Token) :
    ∃ top', top'.length = e ∧ ofTokens (top ++ stack) (ts ++ us) = ofTokens (top' ++ stack) us := by
  induction ts generalizing top with
  | nil => exact ⟨top, Option.some.inj h, rfl⟩
  | cons t ts ih =>
      rw [List.cons_append]
      rcases t.paren_cases with ⟨hopen, -⟩ | ⟨-, hclose, -⟩ | ⟨hopen, hclose, -⟩
      · rw [openBehind_open top.length ts hopen] at h
        have hpush : openBehind (t.index :: top).length ts = some e := h
        rw [ofTokens_cons_open _ _ hopen]
        exact ih hpush
      · cases top with
        | nil =>
            rw [List.length_nil, openBehind_close_zero ts hclose] at h
            cases h
        | cons i top =>
            rw [List.length_cons, openBehind_close_succ top.length ts hclose] at h
            rw [List.cons_append, ofTokens_cons_close _ _ hclose]
            exact ih h
      · rw [openBehind_other top.length ts hopen hclose] at h
        rw [ofTokens_cons_other _ _ hopen hclose]
        exact ih h

/-- The first group that stays open is at the bottom of the stack in the end. -/
theorem ofTokens_open {before after : List Token} {o : Token} {e : Nat}
    (ho : o.isSyntax '(' = true) (hbefore : openBehind 0 before = some 0)
    (hafter : openBehind 0 after = some e) :
    ofTokens [] (before ++ o :: after) = .unmatchedOpen (e + 1) o.index := by
  have hempty : openBehind ([] : List Nat).length before = some 0 := hbefore
  have hempty' : openBehind ([] : List Nat).length after = some e := hafter
  obtain ⟨top, htop, hfront⟩ := ofTokens_append hempty [] (o :: after)
  obtain rfl := List.length_eq_zero_iff.mp htop
  have hpush := ofTokens_cons_open [] after ho
  obtain ⟨top, rfl, hback⟩ := ofTokens_append hempty' [o.index] []
  rw [List.append_nil, List.nil_append] at hback
  have hbottom : (top ++ [o.index]).getLast? = some o.index := List.getLast?_concat
  calc ofTokens [] (before ++ o :: after)
      = ofTokens [] (o :: after) := hfront
    _ = ofTokens [o.index] after := hpush
    _ = ofTokens (top ++ [o.index]) [] := hback
    _ = .unmatchedOpen (top.length + 1) o.index := by
        unfold ofTokens
        rw [hbottom, List.length_append]
        rfl

theorem isValid_iff {n : Option Nat} {b : Balance} (h : Finds n b) :
    b.isValid = true ↔ n = some 0 := by
  match n with
  | none =>
    obtain ⟨i, rfl⟩ := h
    exact iff_of_false nofun nofun
  | some 0 =>
    obtain rfl : b = balanced := h
    exact iff_of_true rfl rfl
  | some (d + 1) =>
    obtain ⟨i, rfl⟩ := h
    exact iff_of_false nofun nofun

end Balance

theorem balance_finds (pattern : Text) :
    Balance.Finds (openBehind 0 (tokens pattern)) (balance pattern) :=
  Balance.ofTokens_finds [] (tokens pattern)

/-- The offsets of the `)` behind which there are more `)` than `(`. -/
def overdrawnAt (ts : List Token) : Set Nat :=
  {i | ∃ before c after, ts = before ++ c :: after
    ∧ c.isSyntax ')' = true ∧ c.index = i ∧ Overdrawn (before ++ [c])}

/-- The offsets of the `(` that match no `)`. -/
def unmatchedAt (ts : List Token) : Set Nat :=
  {i | ∃ o ∈ ts, o.isSyntax '(' = true ∧ o.index = i ∧ ∀ c, ¬ Matches ts o c}

variable {pattern : Text}

theorem isLeast_overdrawnAt {i : Nat} (h : closingIndex? 1 (tokens pattern) = some i) :
    IsLeast (overdrawnAt (tokens pattern)) i := by
  obtain ⟨before, c, after, hts, hc, rfl, hbefore⟩ := closingIndex?_eq_some_iff.mp h
  obtain ⟨hfronts, hcount⟩ := openBehind_eq_some_iff.mp hbefore
  constructor
  · refine ⟨before, c, after, hts, hc, rfl, ?_⟩
    have hstep := c.count_of_close hc
    unfold Overdrawn
    rw [opened_append, closed_append]
    omega
  · rintro j ⟨before', c', after', hts', -, rfl, hover⟩
    by_contra hlt
    obtain ⟨between, rfl⟩ := exists_between hts' hts (Nat.not_le.mp hlt)
    exact hfronts (before' ++ [c']) ⟨between, by simp⟩ hover

theorem isLeast_unmatchedAt {before after : List Token} {o : Token} {e : Nat}
    (hts : tokens pattern = before ++ o :: after) (ho : o.isSyntax '(' = true)
    (hbefore : openBehind 0 before = some 0) (hafter : openBehind 0 after = some e) :
    IsLeast (unmatchedAt (tokens pattern)) o.index := by
  constructor
  · refine ⟨o, by rw [hts]; simp, ho, rfl, fun c hc => ?_⟩
    obtain ⟨-, before', after', hts', hclosed⟩ := exists_matches_iff.mp ⟨c, hc, rfl⟩
    obtain ⟨-, -, rfl⟩ := split_unique hts hts' rfl
    rw [closingIndex?_eq_none_iff.mpr ⟨e, hafter⟩] at hclosed
    cases hclosed
  · rintro j ⟨o', ho', hopen, rfl, hunmatched⟩
    by_contra hlt
    obtain ⟨before', after', hts'⟩ := List.append_of_mem ho'
    obtain ⟨between, rfl⟩ := exists_between hts' hts (Nat.not_le.mp hlt)
    -- in front of `o` every group is closed
    obtain ⟨i, hi⟩ := exists_closing hopen hbefore
    have hclosed := closingIndex?_append hi (o :: after)
    rw [List.append_assoc, List.cons_append] at hts
    obtain ⟨c, hc, -⟩ := exists_matches_iff.mpr ⟨hopen, before', _, hts, hclosed⟩
    exact hunmatched c hc

theorem unmatchedAt_of_dyck {ts : List Token} (h : openBehind 0 ts = some 0) :
    unmatchedAt ts = ∅ := by
  rw [Set.eq_empty_iff_forall_notMem]
  rintro i ⟨o, ho, hopen, -, hunmatched⟩
  obtain ⟨before, after, hts⟩ := List.append_of_mem ho
  rw [hts] at h
  obtain ⟨j, hj⟩ := exists_closing hopen h
  obtain ⟨c, hc, -⟩ := exists_matches_iff.mpr ⟨hopen, before, after, hts, hj⟩
  exact hunmatched c hc

/-- Where a front has more `)` than `(`, the check names the first place at which that is so. -/
theorem balance_of_overdrawn {front : List Token} (hfront : front <+: tokens pattern)
    (hover : Overdrawn front) :
    ∃ i, balance pattern = .unmatchedClose i ∧ IsLeast (overdrawnAt (tokens pattern)) i := by
  have hfinds := balance_finds pattern
  cases hopen : openBehind 0 (tokens pattern) with
  | some e =>
      obtain ⟨hfronts, -⟩ := openBehind_eq_some_iff.mp hopen
      exact absurd hover (hfronts front hfront)
  | none =>
      rw [hopen] at hfinds
      obtain ⟨i, hi⟩ := hfinds
      exact ⟨i, hi, isLeast_overdrawnAt (Balance.ofTokens_eq_unmatchedClose_iff.mp hi)⟩

/-- Where groups stay open, the check counts them and names the first one. -/
theorem balance_of_open {e : Nat} (h : openBehind 0 (tokens pattern) = some (e + 1)) :
    ∃ i, balance pattern = .unmatchedOpen (e + 1) i ∧ IsLeast (unmatchedAt (tokens pattern)) i := by
  have hopen : openBehind 0 (tokens pattern) = some (0 + 1 + e) := by
    rw [h, Nat.zero_add, Nat.add_comm]
  obtain ⟨before, o, after, hts, ho, hbefore, hafter⟩ := exists_open hopen
  refine ⟨o.index, ?_, isLeast_unmatchedAt hts ho hbefore hafter⟩
  rw [balance, hts]
  exact Balance.ofTokens_open ho hbefore hafter

/--
**The balance check decides balance and finds the place where it fails.**

A pattern passes exactly if its parentheses form a Dyck word. If some front of it has more `)` than
`(`, the check names the first `)` that completes such a front. Otherwise it counts how many more
`(` than `)` there are, and names the first `(` that matches no `)`.
-/
theorem balance_decides (pattern : Text) :
    let ts := tokens pattern
    ((balance pattern).isValid = true ↔ IsDyck ts)
      ∧ ((∃ front, front <+: ts ∧ Overdrawn front) →
        (balance pattern).depth = 0
          ∧ ∃ i, (balance pattern).position? = some i ∧ IsLeast (overdrawnAt ts) i)
      ∧ ((∀ front, front <+: ts → ¬ Overdrawn front) →
        (balance pattern).depth + closed ts = opened ts
          ∧ ∀ i, (balance pattern).position? = some i ↔ IsLeast (unmatchedAt ts) i) := by
  intro ts
  have hfinds : Balance.Finds (openBehind 0 ts) (balance pattern) := balance_finds pattern
  refine ⟨(Balance.isValid_iff hfinds).trans isDyck_iff.symm, ?_, ?_⟩
  · rintro ⟨front, hfront, hover⟩
    obtain ⟨i, hi, hleast⟩ := balance_of_overdrawn hfront hover
    rw [hi]
    exact ⟨rfl, i, rfl, hleast⟩
  · intro hfronts
    have hle : closed ts ≤ opened ts := Nat.not_lt.mp (hfronts ts List.prefix_rfl)
    obtain ⟨d, hd⟩ := Nat.exists_eq_add_of_le' hle
    have hopen : openBehind 0 ts = some d := openBehind_eq_some_iff.mpr ⟨hfronts, hd.symm⟩
    cases d with
    | zero =>
        rw [hopen] at hfinds
        have hbalanced : balance pattern = .balanced := hfinds
        rw [hbalanced, unmatchedAt_of_dyck hopen]
        exact ⟨hd.symm, fun i => iff_of_false nofun fun hi => hi.1⟩
    | succ e =>
        obtain ⟨i, hi, hleast⟩ := balance_of_open hopen
        rw [hi]
        refine ⟨hd.symm, fun j => ?_⟩
        rw [Balance.position?, Option.some_inj]
        exact ⟨fun h => h ▸ hleast, fun h => hleast.unique h⟩

/-- Two parentheses stay open, and the one between them is closed. -/
example : balance "a(()(b".toList = .unmatchedOpen 2 1 := by
  decide +kernel

end SecretScan.Pattern
