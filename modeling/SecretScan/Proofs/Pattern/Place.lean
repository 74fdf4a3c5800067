import SecretScan.Proofs.Pattern.Piece

/-!
# Tokens and their places

A token carries its offset, and the walk knows at each of them whether it stands in a class. Both
can be read off the text in front of the token: the offset is its length, and the rest is the mode
behind it. So the tokens of a pattern are exactly what one gets by cutting it in two in front of a
character (`mem_tokens_iff`).

The walk looks ahead only for a named item, and no item holds a newline. A text in front of a
newline therefore reads the same whatever comes after it (`marks_line`, `behind_line`): that is what
lets lines be read one by one.
-/

namespace SecretScan.Pattern

/-! ## The mode in the middle of a text -/

theorem Mode.behind_append (m : Mode) (s t ahead : Text) :
    m.behind (s ++ t) ahead = (m.behind s (t ++ ahead)).behind t ahead := by
  induction s generalizing m with
  | nil => rfl
  | cons c s ih =>
      rw [List.cons_append, behind, behind, ih, List.append_assoc]

theorem Mode.read_eq_char_iff {m : Mode} {c : Char} {ahead : Text} :
    (m.read c ahead).1 = .char ↔ m = .outside ∧ IsPlain c := by
  constructor
  · intro h
    by_cases hm : m = .outside
    · subst hm
      refine ⟨rfl, ?_, ?_⟩
      · rintro rfl
        cases h
      · rintro rfl
        cases h
    · exact absurd h (read_ne_char hm c ahead)
  · rintro ⟨rfl, hc⟩
    rw [read_plain hc]

/-- Plain text leads from outside to outside. -/
theorem behind_of_plain {t : Text} (h : ∀ c ∈ t, IsPlain c) (ahead : Text) :
    Mode.outside.behind t ahead = .outside := by
  induction t with
  | nil => rfl
  | cons c t ih =>
      rw [Mode.behind, Mode.read_plain (h c List.mem_cons_self)]
      exact ih fun d hd => h d (List.mem_cons_of_mem c hd)

/-- In what is covered no character is syntax. -/
theorem not_plain_of_covered {m : Mode} {t ahead a b : Text} {c : Char}
    (h : Covered (marks m t ahead)) (ht : t = a ++ c :: b)
    (hm : m.behind a (c :: b ++ ahead) = .outside) : ¬ IsPlain c := by
  intro hc
  have hmem : (c, (Mode.outside.read c (b ++ ahead)).1) ∈ marks m t ahead := by
    rw [ht, marks_append, hm]
    exact List.mem_append_right _ List.mem_cons_self
  exact h _ hmem (by rw [Mode.read_plain hc])

/-! ## Tokens -/

theorem tokensFrom_append (pos : Nat) (m : Mode) (s t ahead : Text) :
    tokensFrom pos m (s ++ t) ahead = tokensFrom pos m s (t ++ ahead)
      ++ tokensFrom (pos + s.length) (m.behind s (t ++ ahead)) t ahead := by
  induction s generalizing pos m with
  | nil => rfl
  | cons c s ih =>
      rw [List.cons_append, tokensFrom, ih, tokensFrom, Mode.behind, List.append_assoc,
        List.cons_append, List.length_cons]
      congr 3
      omega

theorem mem_tokensFrom_iff {pos : Nat} {m : Mode} {s ahead : Text} {t : Token} :
    t ∈ tokensFrom pos m s ahead ↔ ∃ a c b, s = a ++ c :: b
      ∧ t = tokenIn (m.behind a (c :: b ++ ahead)) (pos + a.length) c (b ++ ahead) := by
  constructor
  · intro h
    induction s generalizing pos m with
    | nil => cases h
    | cons d s ih =>
        rcases List.mem_cons.mp h with rfl | h
        · exact ⟨[], d, s, rfl, rfl⟩
        · obtain ⟨a, c, b, rfl, rfl⟩ := ih h
          refine ⟨d :: a, c, b, rfl, ?_⟩
          rw [List.append_assoc, List.length_cons, Nat.add_right_comm]
          rfl
  · rintro ⟨a, c, b, rfl, rfl⟩
    rw [tokensFrom_append]
    exact List.mem_append_right _ List.mem_cons_self

/-- **The tokens of a pattern are the characters in it**, each read in the mode behind the text in
front of it. -/
theorem mem_tokens_iff {pattern : Text} {t : Token} :
    t ∈ tokens pattern ↔ ∃ a c b, pattern = a ++ c :: b
      ∧ t = tokenIn (Mode.outside.behind a (c :: b)) a.length c b := by
  rw [tokens_eq, mem_tokensFrom_iff]
  simp only [List.append_nil, Nat.zero_add]

theorem tokensFrom_map_char (pos : Nat) (m : Mode) (s ahead : Text) :
    (tokensFrom pos m s ahead).map Token.char = s := by
  induction s generalizing pos m with
  | nil => rfl
  | cons c s ih => rw [tokensFrom, List.map_cons, ih]; rfl

theorem index_of_mem_tokensFrom {pos : Nat} {m : Mode} {s ahead : Text} {t : Token}
    (h : t ∈ tokensFrom pos m s ahead) : pos ≤ t.index ∧ t.index < pos + s.length := by
  obtain ⟨a, c, b, rfl, rfl⟩ := mem_tokensFrom_iff.mp h
  rw [List.length_append, List.length_cons]
  show pos ≤ pos + a.length ∧ pos + a.length < _
  omega

/-- A token that is syntax stands outside any class and escape. -/
theorem isSyntax_tokenIn {m : Mode} {pos : Nat} {c d : Char} {ahead : Text} :
    (tokenIn m pos c ahead).isSyntax d = true ↔ m = .outside ∧ IsPlain c ∧ c = d := by
  rw [Token.isSyntax, Bool.and_eq_true, decide_eq_true_eq, decide_eq_true_eq]
  show (m.read c ahead).1 = .char ∧ c = d ↔ _
  rw [Mode.read_eq_char_iff, and_assoc]

/-! ## Lines -/

/-- No named item goes over the end of a line. -/
theorem ItemName.newline_notMem {name : Text} (h : ItemName name) : '\n' ∉ name := by
  have letters : ∀ {t : Text}, (∀ c ∈ t, c.isAlpha = true) → '\n' ∉ t :=
    fun ht hmem => absurd (ht _ hmem) (by decide)
  intro hmem
  cases h with
  | plain _ hl => simp [letters hl] at hmem
  | negated _ hl => simp [letters hl] at hmem

/-- A newline ends the look ahead for a named item. -/
theorem namedItemLength?_line (t u : Text) :
    namedItemLength? ('[' :: (t ++ '\n' :: u)) = namedItemLength? ('[' :: t) := by
  have hitem : ∀ n, namedItemLength? ('[' :: (t ++ '\n' :: u)) = some n ↔
      namedItemLength? ('[' :: t) = some n := by
    intro n
    rw [namedItemLength?_eq_some, namedItemLength?_eq_some]
    constructor
    · rintro ⟨name, rest, hname, hs, hn⟩
      rcases List.append_eq_append_iff.mp hs with ⟨v, rfl, hv⟩ | ⟨v, rfl, hv⟩
      · -- the newline would stand in the name
        cases v with
        | nil => exact absurd (List.cons.inj hv).1 (by decide)
        | cons d v =>
            obtain ⟨rfl, -⟩ := List.cons.inj hv
            exact absurd (List.mem_append_right t List.mem_cons_self) hname.newline_notMem
      · cases v with
        | nil => exact absurd (List.cons.inj hv).1 (by decide)
        | cons d v =>
            obtain ⟨rfl, rfl⟩ := List.cons.inj hv
            exact ⟨name, v, hname, rfl, hn⟩
    · rintro ⟨name, rest, hname, rfl, hn⟩
      exact ⟨name, rest ++ '\n' :: u, hname, by simp, hn⟩
  cases h : namedItemLength? ('[' :: t) with
  | some n => exact (hitem n).mpr h
  | none =>
      cases h' : namedItemLength? ('[' :: (t ++ '\n' :: u)) with
      | none => rfl
      | some n =>
          rw [(hitem n).mp h'] at h
          cases h

/-- Only a `[` looks ahead. -/
theorem Mode.read_ahead (m : Mode) {c : Char} (h : c ≠ '[') (t u : Text) :
    m.read c t = m.read c u := by
  have member : readMember c t = readMember c u := by
    rw [readMember, readMember, if_neg h, if_neg h]
  cases m with
  | outside => rfl
  | escape => rfl
  | opened => rw [read, read, member]
  | negated => exact member
  | members => rw [read, read, member]
  | memberEscape => rfl
  | item left => cases left <;> rfl

theorem Mode.read_line (m : Mode) (c : Char) (t u : Text) :
    m.read c (t ++ '\n' :: u) = m.read c t := by
  by_cases hc : c = '['
  · subst hc
    have member : readMember '[' (t ++ '\n' :: u) = readMember '[' t := by
      rw [readMember, readMember, namedItemLength?_line]
    cases m with
    | outside => rfl
    | escape => rfl
    | opened => exact member
    | negated => exact member
    | members => exact member
    | memberEscape => rfl
    | item left => cases left <;> rfl
  · exact m.read_ahead hc _ _

/-- What comes after the end of a line has no influence on how the line is read. -/
theorem behind_line (m : Mode) (s t u : Text) :
    m.behind s (t ++ '\n' :: u) = m.behind s t := by
  induction s generalizing m with
  | nil => rfl
  | cons c s ih => rw [Mode.behind, Mode.behind, ← List.append_assoc, Mode.read_line, ih]

theorem marks_line (m : Mode) (s t u : Text) : marks m s (t ++ '\n' :: u) = marks m s t := by
  induction s generalizing m with
  | nil => rfl
  | cons c s ih => rw [marks, marks, ← List.append_assoc, Mode.read_line, ih]

/-- Behind a newline outside any class the walk is outside, also if the newline is escaped. -/
theorem Mode.read_newline {m : Mode} (h : m.inClass = false) (ahead : Text) :
    (m.read '\n' ahead).2 = .outside := by
  cases m with
  | outside => rfl
  | escape => rfl
  | opened => cases h
  | negated => cases h
  | members => cases h
  | memberEscape => cases h
  | item left => cases h

end SecretScan.Pattern
