import SecretScan.Pattern.Group
import SecretScan.Proofs.Pattern.Piece

/-!
# Nesting of groups

The end of a group and the balance check are both about one thing: how many groups are open behind
a text when some are open before it. `nesting` computes that from marks, without offsets, and gives
nothing where a `)` closes no group. A group is closed exactly if the text behind its `(` closes a
group that it does not open (`closingIndex?_isSome`), and the three answers of the balance check are
the three things that `nesting` can say about a whole pattern (`balance_nesting`).
-/

namespace SecretScan.Pattern

/-- How many groups are open behind a mark when `depth` are open before it. -/
def Mark.nest (depth : Nat) (k : Mark) : Option Nat :=
  if k = ('(', .char) then some (depth + 1)
  else if k = (')', .char) then
    match depth with
    | 0 => none
    | depth + 1 => some depth
  else some depth

/-- How many groups are open behind `ks` when `depth` are open before it. -/
def nesting (depth : Nat) (ks : List Mark) : Option Nat :=
  ks.foldlM Mark.nest depth

theorem nesting_append (depth : Nat) (ks ls : List Mark) :
    nesting depth (ks ++ ls) = (nesting depth ks).bind (nesting · ls) :=
  List.foldlM_append

theorem nesting_open (depth : Nat) (ks : List Mark) :
    nesting depth (('(', .char) :: ks) = nesting (depth + 1) ks := rfl

theorem nesting_close_succ (depth : Nat) (ks : List Mark) :
    nesting (depth + 1) ((')', .char) :: ks) = nesting depth ks := rfl

theorem nesting_other {k : Mark} (hopen : k ≠ ('(', .char)) (hclose : k ≠ (')', .char))
    (depth : Nat) (ks : List Mark) : nesting depth (k :: ks) = nesting depth ks := by
  have hnest : Mark.nest depth k = some depth := by
    unfold Mark.nest
    rw [if_neg hopen, if_neg hclose]
  rw [nesting, List.foldlM_cons, hnest]
  rfl

/-- Text as syntax. -/
def syntaxMarks (t : Text) : List Mark :=
  t.map (·, .char)

/-- A plain character that is no parenthesis. -/
def IsInert (c : Char) : Prop :=
  IsPlain c ∧ c ≠ '(' ∧ c ≠ ')'
deriving Decidable

/-- A class of characters without the four that are not inert. -/
theorem isInert_of_class {p : Char → Bool} {c : Char} (h : p c = true)
    (hp : ['\\', '[', '(', ')'].any p = false) : IsInert c := by
  have hne : ∀ d ∈ ['\\', '[', '(', ')'], c ≠ d := by
    rintro d hd rfl
    exact List.any_eq_false.mp hp c hd h
  exact ⟨⟨hne _ (by decide), hne _ (by decide)⟩, hne _ (by decide), hne _ (by decide)⟩

theorem isInert_of_all {t : Text} (h : t.all (IsInert ·) = true) : ∀ c ∈ t, IsInert c :=
  fun c hc => of_decide_eq_true (List.all_eq_true.mp h c hc)

/-- Text without a parenthesis leaves the nesting as it is. -/
theorem nesting_of_inert {t : Text} (h : ∀ c ∈ t, IsInert c) (depth : Nat) :
    nesting depth (syntaxMarks t) = some depth := by
  induction t with
  | nil => rfl
  | cons c t ih =>
      obtain ⟨-, hopen, hclose⟩ := h c List.mem_cons_self
      rw [syntaxMarks, List.map_cons, nesting_other (by simp [hopen]) (by simp [hclose])]
      exact ih fun d hd => h d (List.mem_cons_of_mem c hd)

/-- A `(` and no further parenthesis opens one group. -/
theorem nesting_opener {t : Text} (h : ∀ c ∈ t, IsInert c) (depth : Nat) :
    nesting depth (syntaxMarks ('(' :: t)) = some (depth + 1) := by
  rw [syntaxMarks, List.map_cons, nesting_open]
  exact nesting_of_inert h (depth + 1)

/-- A `(` and a `)` with no parenthesis between them leave the nesting as it is. -/
theorem nesting_pair {t : Text} (h : ∀ c ∈ t, IsInert c) (depth : Nat) :
    nesting depth (syntaxMarks ('(' :: (t ++ [')']))) = some depth := by
  have hsplit : syntaxMarks ('(' :: (t ++ [')'])) = syntaxMarks ('(' :: t) ++ [(')', .char)] := by
    simp [syntaxMarks]
  rw [hsplit, nesting_append, nesting_opener h]
  rfl

/-! ## Tokens and their marks -/

theorem Token.isSyntax_iff {t : Token} {c : Char} : t.isSyntax c = true ↔ t.mark = (c, .char) := by
  simp [isSyntax, mark, and_comm]

/-- **A group is closed where a `)` closes none of the groups opened behind it.** -/
theorem closingIndex?_isSome (depth : Nat) (ts : List Token) :
    (closingIndex? (depth + 1) ts).isSome = (nesting depth (ts.map Token.mark)).isNone := by
  induction ts generalizing depth with
  | nil => rfl
  | cons t ts ih =>
      rw [closingIndex?, List.map_cons]
      simp only [Token.isSyntax_iff]
      by_cases hopen : t.mark = ('(', .char)
      · rw [if_pos hopen, hopen, nesting_open, ih]
      rw [if_neg hopen]
      by_cases hclose : t.mark = (')', .char)
      · rw [if_pos hclose, hclose]
        cases depth with
        | zero => rfl
        | succ depth =>
            rw [if_neg (by omega), nesting_close_succ]
            exact ih depth
      · rw [if_neg hclose, nesting_other hopen hclose, ih]

/-- Whether a group is closed depends on the text behind its `(` only. -/
theorem groupEnd?_isSome (pattern : Text) (opening : Nat) :
    (groupEnd? pattern opening).isSome
      = (nesting 0 (marks .outside (pattern.drop (opening + 1)) [])).isNone := by
  rw [groupEnd?, closingIndex?_isSome, (Walk.start_is pattern (opening + 1)).tokens]
  rfl

/-! ## The balance check -/

namespace Balance

/-- What the check finds when the groups nest like this, positions aside. -/
def Finds : Option Nat → Balance → Prop
  | none, b => ∃ position, b = unmatchedClose position
  | some 0, b => b = balanced
  | some (depth + 1), b => ∃ position, b = unmatchedOpen (depth + 1) position

theorem ofTokens_finds (stack : List Nat) (ts : List Token) :
    Finds (nesting stack.length (ts.map Token.mark)) (ofTokens stack ts) := by
  induction ts generalizing stack with
  | nil =>
      cases stack with
      | nil => rfl
      | cons position stack =>
          refine ⟨(position :: stack).getLast (List.cons_ne_nil _ _), ?_⟩
          unfold ofTokens
          rw [List.getLast?_eq_some_getLast (List.cons_ne_nil _ _)]
          rfl
  | cons t ts ih =>
      unfold ofTokens
      rw [List.map_cons]
      simp only [Token.isSyntax_iff]
      by_cases hopen : t.mark = ('(', .char)
      · rw [if_pos hopen, hopen, nesting_open]
        exact ih (t.index :: stack)
      rw [if_neg hopen]
      by_cases hclose : t.mark = (')', .char)
      · rw [if_pos hclose, hclose]
        cases stack with
        -- the check ends here, whatever follows
        | nil => exact ⟨t.index, rfl⟩
        | cons position stack => exact ih stack
      · rw [if_neg hclose, nesting_other hopen hclose]
        exact ih stack

end Balance

/-- **The balance check computes the nesting of the whole pattern.** -/
theorem balance_nesting (pattern : Text) :
    Balance.Finds (nesting 0 (marks .outside pattern [])) (balance pattern) := by
  rw [← tokens_mark]
  exact Balance.ofTokens_finds [] (tokens pattern)

end SecretScan.Pattern
