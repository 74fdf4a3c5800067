import SecretScan.Proofs.Pattern.NamedItem

/-!
# Walking without places

A walk remembers offsets: where a literal `]` may stand, and where a named item is closed. What it
says about characters does not depend on offsets, only on where the walk is in the grammar of
patterns. `Mode` is that, and `Mode.read` reads one character in a mode. `Walk.Is` ties a walk to
its mode; a step keeps the tie (`Walk.Is.stepOn`), so the tokens of a walk are the marks that
reading gives (`Walk.Is.tokens`).

Outside any class the mode says nothing about the remembered offsets. This is why a walk may jump:
what it remembers from before is never looked at again.
-/

namespace SecretScan.Pattern

/-- Where a walk is in the grammar of patterns. -/
inductive Mode where
  /-- Outside any class. -/
  | outside
  /-- After an escaping backslash outside any class. -/
  | escape
  /-- After the `[` of a class. -/
  | opened
  /-- After the `[^` of a class. -/
  | negated
  /-- Among the members of a class. -/
  | members
  /-- After an escaping backslash among the members of a class. -/
  | memberEscape
  /-- In a named item, `left` characters before its `]`. -/
  | item (left : Nat)
deriving DecidableEq, Repr

namespace Mode

/-- Reads a character that does not close the class. -/
def readMember (c : Char) (ahead : Text) : TokenKind × Mode :=
  if c = '\\' then (.escape, memberEscape)
  else if c = '[' then
    match namedItemLength? ('[' :: ahead) with
    | some n => (.classOpen, item (n - 2))
    | none => (.member, members)
  else (.member, members)

/-- Reads a character in front of `ahead`. -/
def read : Mode → Char → Text → TokenKind × Mode
  | outside, c, _ =>
    if c = '\\' then (.escape, escape)
    else if c = '[' then (.classOpen, opened)
    else (.char, outside)
  | escape, _, _ => (.escaped, outside)
  | opened, c, ahead => if c = '^' then (.member, negated) else readMember c ahead
  | negated, c, ahead => readMember c ahead
  | members, c, ahead => if c = ']' then (.classClose, outside) else readMember c ahead
  | memberEscape, _, _ => (.escaped, members)
  | item 0, _, _ => (.classClose, members)
  | item (left + 1), _, _ => (.member, item left)

/-- Whether the mode lies in a class. -/
def inClass : Mode → Bool
  | outside => false
  | escape => false
  | _ => true

end Mode

/-- What a walk says about a character. -/
abbrev Mark := Char × TokenKind

/-- The mark of a token. -/
def Token.mark (t : Token) : Mark :=
  (t.char, t.kind)

/-- The marks of `t` in front of `ahead`. -/
def marks : Mode → Text → Text → List Mark
  | _, [], _ => []
  | m, c :: t, ahead => (c, (m.read c (t ++ ahead)).1) :: marks (m.read c (t ++ ahead)).2 t ahead

/-- The mode behind `t` in front of `ahead`. -/
def Mode.behind : Mode → Text → Text → Mode
  | m, [], _ => m
  | m, c :: t, ahead => Mode.behind (m.read c (t ++ ahead)).2 t ahead

theorem marks_append (m : Mode) (s t ahead : Text) :
    marks m (s ++ t) ahead = marks m s (t ++ ahead) ++ marks (m.behind s (t ++ ahead)) t ahead := by
  induction s generalizing m with
  | nil => rfl
  | cons c s ih =>
      rw [List.cons_append, marks, ih, marks, Mode.behind, List.append_assoc, List.cons_append]

/-! ## The mode of a walk -/

namespace Walk

/-- The place of a literal `]` lies behind the walk. -/
def PastLiteral (w : Walk) : Prop :=
  ∀ place, w.literalClose = some place → place < w.pos

/-- `w.Is m`: the walk `w` is in the mode `m`. -/
def Is (w : Walk) : Mode → Prop
  | .outside => w.classDepth = 0 ∧ w.escaped = false
  | .escape => w.classDepth = 0 ∧ w.escaped = true
  | .opened => w.classDepth = 1 ∧ w.escaped = false
      ∧ w.literalClose = some (if w.text[w.pos]? = some '^' then w.pos + 1 else w.pos)
  | .negated => w.classDepth = 1 ∧ w.escaped = false ∧ w.literalClose = some w.pos
  | .members => w.classDepth = 1 ∧ w.escaped = false ∧ w.PastLiteral
  | .memberEscape => w.classDepth = 1 ∧ w.escaped = true ∧ w.PastLiteral
  | .item left => w.classDepth = 2 ∧ w.escaped = false ∧ w.PastLiteral
      ∧ w.itemClose = some (w.pos + left)
      ∧ ∃ name after, w.rest = name ++ ']' :: after ∧ name.length = left
        ∧ ∀ c ∈ name, c ≠ ']' ∧ c ≠ '\\'

theorem start_is (text : Text) (pos : Nat) : (start text pos).Is .outside :=
  ⟨rfl, rfl⟩

/-- A jump leads outside, whatever the walk remembers. -/
theorem jump_is (w : Walk) (pos : Nat) : (w.jump pos).Is .outside :=
  ⟨rfl, rfl⟩

/-! ## A step keeps the mode -/

theorem stepOn_text (w : Walk) (c : Char) : (w.stepOn c).2.text = w.text := by
  unfold stepOn stepInside stepOutside
  repeat' split
  all_goals rfl

theorem text_of_rest {w : Walk} {c : Char} {s : Text} (h : w.rest = c :: s) :
    w.text[w.pos]? = some c := by
  rw [← List.head?_drop]
  exact congrArg List.head? h

/-- At the end of the text there is no step. -/
theorem step_of_rest_nil {w : Walk} (h : w.rest = []) : w.step = none := by
  have hnone : w.text[w.pos]? = none := by
    rw [← List.head?_drop]
    exact congrArg List.head? h
  rw [step, hnone]

theorem step_of_rest_cons {w : Walk} {c : Char} {s : Text} (h : w.rest = c :: s) :
    w.step = some (⟨w.pos, c, (w.stepOn c).1, w.inClass⟩, (w.stepOn c).2) := by
  rw [step, text_of_rest h]

theorem stepOn_rest {w : Walk} {c : Char} {s : Text} (h : w.rest = c :: s) :
    (w.stepOn c).2.rest = s := by
  rw [rest, stepOn_text, stepOn_pos, ← List.drop_drop]
  exact congrArg (List.drop 1) h

/-- A step over a member of a class: one that is no `]`, or the literal one. -/
theorem stepOn_member {w : Walk} {c : Char} {s : Text} (hr : w.rest = c :: s)
    (hd : w.classDepth = 1) (he : w.escaped = false)
    (hpast : ∀ place, w.literalClose = some place → place < w.pos + 1)
    (hclose : c = ']' → w.literalClose = some w.pos) :
    (w.stepOn c).1 = (Mode.readMember c s).1 ∧ (w.stepOn c).2.Is (Mode.readMember c s).2 := by
  have hin : w.inClass = true := by simp [inClass, hd]
  unfold stepOn Mode.readMember
  rw [if_neg (by simp [he])]
  by_cases hback : c = '\\'
  · rw [if_pos hback, if_pos hback]
    exact ⟨rfl, hd, rfl, hpast⟩
  rw [if_neg hback, if_neg hback, if_pos hin]
  unfold stepInside
  by_cases hbr : c = ']'
  · have hopen : c ≠ '[' := by rw [hbr]; decide
    rw [if_pos hbr, if_pos (hclose hbr), if_neg hopen]
    exact ⟨rfl, hd, he, hpast⟩
  rw [if_neg hbr]
  by_cases hopen : c = '['
  · rw [if_pos ⟨hopen, hd⟩, if_pos hopen, hr, hopen]
    cases hn : namedItemLength? ('[' :: s) with
    | none => exact ⟨rfl, hd, he, hpast⟩
    | some n =>
        obtain ⟨name, after, hname, hs, hlen⟩ := namedItemLength?_eq_some.mp hn
        have hrest := stepOn_rest hr
        rw [rest, stepOn_text, stepOn_pos] at hrest
        -- the place where the item is closed, counted from behind the `[`
        refine ⟨rfl, rfl, he, hpast, ?_, name, after, ?_, by omega, hname.inert⟩
        · show some (w.pos + n - 1) = some (w.pos + 1 + (n - 2))
          congr 1
          omega
        · exact hrest.trans hs
  · rw [if_neg fun h => hopen h.1, if_neg hopen]
    exact ⟨rfl, hd, he, hpast⟩

/-- A step over the first member of a class, where a `]` is literal. -/
theorem stepOn_first {w : Walk} {c : Char} {s : Text} (hr : w.rest = c :: s)
    (hd : w.classDepth = 1) (he : w.escaped = false) (hlit : w.literalClose = some w.pos) :
    (w.stepOn c).1 = (Mode.readMember c s).1 ∧ (w.stepOn c).2.Is (Mode.readMember c s).2 := by
  refine stepOn_member hr hd he (fun place hp => ?_) fun _ => hlit
  obtain rfl := Option.some.inj (hlit.symm.trans hp)
  exact Nat.lt_succ_self _

/-- A step outside any class. -/
theorem stepOn_outside {w : Walk} (h : w.Is .outside) (c : Char) (s : Text) :
    (w.stepOn c).1 = (Mode.outside.read c s).1
      ∧ (w.stepOn c).2.Is (Mode.outside.read c s).2 := by
  obtain ⟨hd, he⟩ := h
  have hin : w.inClass = false := by simp [inClass, hd]
  rw [Mode.read]
  unfold Walk.stepOn
  rw [if_neg (by simp [he])]
  by_cases hback : c = '\\'
  · rw [if_pos hback, if_pos hback]
    exact ⟨rfl, hd, rfl⟩
  rw [if_neg hback, if_neg hback, if_neg (by simp [hin])]
  unfold stepOutside
  by_cases hopen : c = '['
  · rw [if_pos hopen, if_pos hopen]
    exact ⟨rfl, rfl, he, rfl⟩
  · rw [if_neg hopen, if_neg hopen]
    exact ⟨rfl, hd, he⟩

/-- A step inside a named item. -/
theorem stepOn_item {w : Walk} {left : Nat} {c : Char} {s : Text} (hr : w.rest = c :: s)
    (h : w.Is (.item left)) :
    (w.stepOn c).1 = ((Mode.item left).read c s).1
      ∧ (w.stepOn c).2.Is ((Mode.item left).read c s).2 := by
  obtain ⟨hd, he, hpast, hitem, name, after, hs, hlen, hname⟩ := h
  have hin : w.inClass = true := by simp [inClass, hd]
  have hlit : ¬ w.literalClose = some w.pos := fun e => Nat.lt_irrefl _ (hpast _ e)
  rw [hr] at hs
  cases left with
  | zero =>
      obtain rfl := List.length_eq_zero_iff.mp hlen
      obtain ⟨rfl, rfl⟩ := List.cons.inj hs
      unfold Walk.stepOn stepInside
      rw [if_neg (by simp [he]), if_neg (by decide), if_pos hin, if_pos rfl, if_neg hlit,
        if_neg (by simp [hitem])]
      exact ⟨rfl, by simp [hd], he, fun place hp => Nat.lt_succ_of_lt (hpast place hp)⟩
  | succ left =>
      -- the name holds nothing that could end the item before its place
      cases name with
      | nil => cases hlen
      | cons d name =>
          obtain ⟨rfl, rfl⟩ := List.cons.inj hs
          obtain ⟨hbr, hback⟩ := hname c List.mem_cons_self
          have hrest := stepOn_rest hr
          rw [Walk.rest, stepOn_text, stepOn_pos] at hrest
          unfold Walk.stepOn stepInside
          rw [if_neg (by simp [he]), if_neg hback, if_pos hin, if_neg hbr,
            if_neg (by simp [hd])]
          refine ⟨rfl, hd, he, fun place hp => Nat.lt_succ_of_lt (hpast place hp), ?_, name,
            after, hrest, Nat.succ.inj hlen, fun c hc => hname c (List.mem_cons_of_mem _ hc)⟩
          show w.itemClose = some (w.pos + 1 + left)
          rw [hitem]
          congr 1
          omega

/-- **A step reads one character.** -/
theorem Is.stepOn {w : Walk} {m : Mode} {c : Char} {s : Text} (h : w.Is m)
    (hr : w.rest = c :: s) :
    (w.stepOn c).1 = (m.read c s).1 ∧ (w.stepOn c).2.Is (m.read c s).2 := by
  cases m with
  | outside => exact stepOn_outside h c s
  | escape =>
      obtain ⟨hd, he⟩ := h
      unfold Walk.stepOn
      rw [if_pos he]
      exact ⟨rfl, hd, rfl⟩
  | opened =>
      obtain ⟨hd, he, hlit⟩ := h
      rw [text_of_rest hr] at hlit
      by_cases hneg : c = '^'
      · -- the negation is a member of its own, and it moves the literal place on
        subst hneg
        rw [if_pos rfl] at hlit
        have hin : w.inClass = true := by simp [inClass, hd]
        unfold Walk.stepOn
        rw [if_neg (by simp [he]), if_neg (by decide), if_pos hin]
        exact ⟨rfl, hd, he, hlit⟩
      · rw [if_neg fun e => hneg (Option.some.inj e)] at hlit
        rw [Mode.read, if_neg hneg]
        exact stepOn_first hr hd he hlit
  | negated =>
      obtain ⟨hd, he, hlit⟩ := h
      exact stepOn_first hr hd he hlit
  | members =>
      obtain ⟨hd, he, hpast⟩ := h
      by_cases hbr : c = ']'
      · -- the place of a literal `]` lies behind, so this one closes the class
        subst hbr
        have hin : w.inClass = true := by simp [inClass, hd]
        have hlit : ¬ w.literalClose = some w.pos :=
          fun e => Nat.lt_irrefl _ (hpast _ e)
        unfold Walk.stepOn stepInside
        rw [if_neg (by simp [he]), if_neg (by decide), if_pos hin, if_pos rfl, if_neg hlit,
          if_neg (by simp [hd])]
        exact ⟨rfl, by simp [hd], he⟩
      · rw [Mode.read, if_neg hbr]
        exact stepOn_member hr hd he (fun place hp => Nat.lt_succ_of_lt (hpast place hp))
          fun e => absurd e hbr
  | memberEscape =>
      obtain ⟨hd, he, hpast⟩ := h
      unfold Walk.stepOn
      rw [if_pos he]
      exact ⟨rfl, hd, rfl, fun place hp => Nat.lt_succ_of_lt (hpast place hp)⟩
  | item left => exact stepOn_item hr h

end Walk

/-! ## The tokens of a walk -/

/-- The token of `c` in the mode `m`, at offset `pos` and in front of `ahead`. -/
def tokenIn (m : Mode) (pos : Nat) (c : Char) (ahead : Text) : Token :=
  ⟨pos, c, (m.read c ahead).1, m.inClass⟩

/-- The tokens of `t` in front of `ahead`, the first one at offset `pos`. -/
def tokensFrom : Nat → Mode → Text → Text → List Token
  | _, _, [], _ => []
  | pos, m, c :: t, ahead =>
    tokenIn m pos c (t ++ ahead) :: tokensFrom (pos + 1) (m.read c (t ++ ahead)).2 t ahead

theorem tokensFrom_map_mark (pos : Nat) (m : Mode) (s ahead : Text) :
    (tokensFrom pos m s ahead).map Token.mark = marks m s ahead := by
  induction s generalizing pos m with
  | nil => rfl
  | cons c s ih =>
      rw [tokensFrom, List.map_cons, ih, marks]
      rfl

namespace Walk

theorem Is.inClass {w : Walk} {m : Mode} (h : w.Is m) : w.inClass = m.inClass := by
  have hdepth : w.inClass = decide (0 < w.classDepth) := rfl
  rw [hdepth]
  cases m with
  | outside => rw [h.1]; rfl
  | escape => rw [h.1]; rfl
  | opened => rw [h.1]; rfl
  | negated => rw [h.1]; rfl
  | members => rw [h.1]; rfl
  | memberEscape => rw [h.1]; rfl
  | item left => rw [h.1]; rfl

/-- Syntax is seen outside any class and escape only. -/
theorem Is.atSyntax_eq {w : Walk} {m : Mode} (h : w.Is m) (c : Char) :
    w.atSyntax c = (decide (m = .outside) && decide (w.rest.head? = some c)) := by
  have heq : w.atSyntax c = (!w.escaped && !m.inClass && decide (w.rest.head? = some c)) := by
    rw [atSyntax, h.inClass, rest, List.head?_drop]
  rw [heq]
  cases m with
  | outside => rw [h.2]; rfl
  | escape => rw [h.2]; rfl
  | opened => rw [h.2.1]; rfl
  | negated => rw [h.2.1]; rfl
  | members => rw [h.2.1]; rfl
  | memberEscape => rw [h.2.1]; rfl
  | item left => rw [h.2.1]; rfl

theorem Is.take_eq {w : Walk} {m : Mode} (h : w.Is m) :
    ∀ {n : Nat}, w.rest.length ≤ n → take n w = tokensFrom w.pos m w.rest [] := by
  generalize hs : w.rest = s
  induction s generalizing w m with
  | nil =>
      intro n _
      cases n with
      | zero => rfl
      | succ n => simp only [take, step_of_rest_nil hs, tokensFrom]
  | cons c s ih =>
      intro n hn
      cases n with
      | zero => cases hn
      | succ n =>
          obtain ⟨hkind, hnext⟩ := h.stepOn hs
          have hrest := ih hnext (stepOn_rest hs) (Nat.le_of_succ_le_succ hn)
          simp only [take, step_of_rest_cons hs, hrest, stepOn_pos, hkind, h.inClass, tokensFrom,
            tokenIn, List.append_nil]

/-- **The tokens of a walk are those that reading gives.** -/
theorem Is.tokens_eq {w : Walk} {m : Mode} (h : w.Is m) :
    w.tokens = tokensFrom w.pos m w.rest [] :=
  h.take_eq (by rw [rest, List.length_drop])

theorem Is.tokens {w : Walk} {m : Mode} (h : w.Is m) :
    w.tokens.map Token.mark = marks m w.rest [] := by
  rw [h.tokens_eq, tokensFrom_map_mark]

end Walk

/-- The tokens of a whole pattern. -/
theorem tokens_eq (pattern : Text) : tokens pattern = tokensFrom 0 .outside pattern [] :=
  (Walk.start_is pattern 0).tokens_eq

/-- The marks of a whole pattern. -/
theorem tokens_mark (pattern : Text) :
    (tokens pattern).map Token.mark = marks .outside pattern [] := by
  rw [tokens_eq, tokensFrom_map_mark]

end SecretScan.Pattern
