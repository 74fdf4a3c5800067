import SecretScan.Proofs.Pattern.Mode

/-!
# The pieces of a pattern

Outside any class a pattern goes on with one of three things: a character that is syntax, an escape
pair or a whole class, which is sealed, or something that never comes to an end, namely a class that
is never closed or a last backslash. A sealed piece reads the same whatever follows it
(`Sealed.marks_append`), although the walk looks ahead in it: the look-ahead stops at a `]`, and a
piece that leaves the class holds that `]` itself. So patterns can be reasoned about piece by piece
(`pieceInduction`).
-/

namespace SecretScan.Pattern

/-- No mark is syntax. -/
def Covered (ks : List Mark) : Prop :=
  ∀ k ∈ ks, k.2 ≠ .char

/-! ## Looking ahead -/

/-- Only a `]` leads out of a class. -/
theorem Mode.inClass_read {m : Mode} {c : Char} {ahead : Text} (hm : m.inClass = true)
    (hc : c ≠ ']') : (m.read c ahead).2.inClass = true := by
  have member : (Mode.readMember c ahead).2.inClass = true := by
    unfold Mode.readMember
    repeat' split
    all_goals rfl
  cases m with
  | outside => cases hm
  | escape => cases hm
  | opened =>
      rw [read]
      split
      · rfl
      · exact member
  | negated => exact member
  | members =>
      rw [read, if_neg hc]
      exact member
  | memberEscape => rfl
  | item left => cases left <;> rfl

theorem mem_of_behind_eq_outside {m : Mode} {t ahead : Text} (hm : m.inClass = true)
    (h : m.behind t ahead = .outside) : ']' ∈ t := by
  induction t generalizing m with
  | nil =>
      rw [Mode.behind] at h
      rw [h] at hm
      cases hm
  | cons c t ih =>
      by_cases hc : c = ']'
      · rw [hc]
        exact List.mem_cons_self
      · exact List.mem_cons_of_mem _ (ih (Mode.inClass_read hm hc) h)

/-- A character reads the same if the class it stands in is left before the texts differ. -/
theorem Mode.read_congr {m : Mode} {c : Char} {t u : Text}
    (h : (m.read c (t ++ u)).2.behind t u = .outside) (v : Text) :
    m.read c (t ++ v) = m.read c (t ++ u) := by
  have member : (Mode.readMember c (t ++ u)).2.behind t u = .outside →
      Mode.readMember c (t ++ v) = Mode.readMember c (t ++ u) := by
    intro h
    by_cases hc : c = '['
    · -- only here the walk looks ahead, and not beyond the `]` that closes the class
      subst hc
      have hin : (Mode.readMember '[' (t ++ u)).2.inClass = true :=
        Mode.inClass_read (m := .negated) rfl (by decide)
      have hmem := mem_of_behind_eq_outside hin h
      rw [readMember, readMember, namedItemLength?_congr hmem v u]
    · rw [readMember, readMember, if_neg hc, if_neg hc]
  cases m with
  | outside => rfl
  | escape => rfl
  | opened =>
      rw [read] at h ⊢
      by_cases hneg : c = '^'
      · rw [read, if_pos hneg, if_pos hneg]
      · rw [if_neg hneg] at h
        rw [read, if_neg hneg, if_neg hneg]
        exact member h
  | negated => exact member h
  | members =>
      rw [read] at h ⊢
      by_cases hbr : c = ']'
      · rw [read, if_pos hbr, if_pos hbr]
      · rw [if_neg hbr] at h
        rw [read, if_neg hbr, if_neg hbr]
        exact member h
  | memberEscape => rfl
  | item left => cases left <;> rfl

/-- **A text that leads outside reads the same whatever follows it.** -/
theorem behind_congr {m : Mode} {t u : Text} (h : m.behind t u = .outside) (v : Text) :
    m.behind t v = .outside ∧ marks m t v = marks m t u := by
  induction t generalizing m with
  | nil => exact ⟨h, rfl⟩
  | cons c t ih =>
      rw [Mode.behind] at h
      obtain ⟨hb, hm⟩ := ih h
      rw [Mode.behind, marks, marks, Mode.read_congr h v]
      exact ⟨hb, by rw [hm]⟩

/-! ## Sealed pieces -/

/-- A piece without syntax that begins and ends outside any class and escape. -/
structure Sealed (t : Text) : Prop where
  /-- There is something in it. -/
  ne_nil : t ≠ []
  /-- It leads outside. -/
  behind : Mode.outside.behind t [] = .outside
  /-- Nothing in it is syntax. -/
  covered : Covered (marks .outside t [])

theorem Sealed.of_ahead {t u : Text} (hne : t ≠ []) (hb : Mode.outside.behind t u = .outside)
    (hc : Covered (marks .outside t u)) : Sealed t := by
  obtain ⟨hb', hm⟩ := behind_congr hb []
  exact ⟨hne, hb', by rw [hm]; exact hc⟩

theorem Sealed.behind_ahead {t : Text} (h : Sealed t) (u : Text) :
    Mode.outside.behind t u = .outside ∧ marks .outside t u = marks .outside t [] :=
  behind_congr h.behind u

theorem Sealed.marks_append {t : Text} (h : Sealed t) (s : Text) :
    marks .outside (t ++ s) [] = marks .outside t [] ++ marks .outside s [] := by
  obtain ⟨hb, hm⟩ := h.behind_ahead s
  rw [Pattern.marks_append, List.append_nil, hb, hm]

/-! ## Syntax -/

/-- A character that is syntax wherever it stands outside any class and escape. -/
def IsPlain (c : Char) : Prop :=
  c ≠ '\\' ∧ c ≠ '['
deriving Decidable

theorem Mode.read_plain {c : Char} (h : IsPlain c) (ahead : Text) :
    Mode.outside.read c ahead = (.char, .outside) := by
  rw [read, if_neg h.1, if_neg h.2]

theorem marks_cons_plain {c : Char} (h : IsPlain c) (s ahead : Text) :
    marks .outside (c :: s) ahead = (c, .char) :: marks .outside s ahead := by
  rw [marks, Mode.read_plain h]

/-- Plain characters are syntax, one by one. -/
theorem marks_append_plain {t : Text} (h : ∀ c ∈ t, IsPlain c) (s ahead : Text) :
    marks .outside (t ++ s) ahead = t.map (·, .char) ++ marks .outside s ahead := by
  induction t with
  | nil => rfl
  | cons c t ih =>
      rw [List.cons_append, marks_cons_plain (h c List.mem_cons_self),
        ih fun d hd => h d (List.mem_cons_of_mem c hd)]
      rfl

/-! ## Piece by piece -/

/-- Syntax stands outside any class and escape only. -/
theorem Mode.read_ne_char {m : Mode} (h : m ≠ .outside) (c : Char) (ahead : Text) :
    (m.read c ahead).1 ≠ .char := by
  have member : (Mode.readMember c ahead).1 ≠ .char := by
    unfold Mode.readMember
    repeat' split
    all_goals exact TokenKind.noConfusion
  cases m with
  | outside => exact absurd rfl h
  | escape => exact TokenKind.noConfusion
  | opened =>
      rw [read]
      split
      · exact TokenKind.noConfusion
      · exact member
  | negated => exact member
  | members =>
      rw [read]
      split
      · exact TokenKind.noConfusion
      · exact member
  | memberEscape => exact TokenKind.noConfusion
  | item left => cases left <;> exact TokenKind.noConfusion

/-- From inside a class or an escape, a text either never leads outside, or a first part of it does.
Up to there nothing is syntax. -/
theorem covered_or_returns {m : Mode} (hm : m ≠ .outside) (s : Text) :
    Covered (marks m s [])
      ∨ ∃ t u, s = t ++ u ∧ m.behind t u = .outside ∧ Covered (marks m t u) := by
  induction s generalizing m with
  | nil => exact .inl (by intro k hk; cases hk)
  | cons c s ih =>
      have hc := Mode.read_ne_char hm c s
      by_cases hnext : (m.read c s).2 = .outside
      · -- the piece ends with this very character
        refine .inr ⟨[c], s, rfl, hnext, ?_⟩
        intro k hk
        rw [List.mem_singleton.mp hk]
        exact hc
      · rcases ih hnext with h | ⟨t, u, rfl, hb, hcov⟩
        · refine .inl ?_
          intro k hk
          rw [marks, List.append_nil] at hk
          rcases List.mem_cons.mp hk with rfl | hk
          · exact hc
          · exact h k hk
        · refine .inr ⟨c :: t, u, rfl, hb, ?_⟩
          intro k hk
          rw [marks] at hk
          rcases List.mem_cons.mp hk with rfl | hk
          · exact hc
          · exact hcov k hk

/-- What stands at the front of a pattern. -/
inductive Front : Text → Prop where
  | nil : Front []
  | plain {c : Char} {s : Text} : IsPlain c → Front (c :: s)
  | sealed {t s : Text} : Sealed t → Front (t ++ s)
  | hanging {t : Text} : Covered (marks .outside t []) → Front t

/-- After a character that opens an escape or a class. -/
theorem front_cons {c : Char} {s : Text} {m : Mode} (hm : m ≠ .outside)
    (hread : ∀ ahead, (Mode.outside.read c ahead).2 = m)
    (hc : ∀ ahead, (Mode.outside.read c ahead).1 ≠ .char) : Front (c :: s) := by
  rcases covered_or_returns hm s with h | ⟨t, u, rfl, hb, hcov⟩
  · refine .hanging ?_
    intro k hk
    rw [marks, hread] at hk
    rcases List.mem_cons.mp hk with rfl | hk
    · exact hc _
    · exact h k hk
  · refine .sealed (t := c :: t) (Sealed.of_ahead (u := u) (List.cons_ne_nil c t) ?_ ?_)
    · rw [Mode.behind, hread]
      exact hb
    · intro k hk
      rw [marks, hread] at hk
      rcases List.mem_cons.mp hk with rfl | hk
      · exact hc _
      · exact hcov k hk

theorem front (s : Text) : Front s := by
  match s with
  | [] => exact .nil
  | c :: s =>
    by_cases hback : c = '\\'
    · subst hback
      exact front_cons (m := .escape) (by decide) (fun _ => rfl) (fun _ => nofun)
    · by_cases hopen : c = '['
      · subst hopen
        exact front_cons (m := .opened) (by decide) (fun _ => rfl) (fun _ => nofun)
      · exact .plain ⟨hback, hopen⟩

/--
**Induction over a pattern, piece by piece.**

After a character that is syntax, the rest may be taken up at any later place: a pass may skip what
follows.
-/
@[elab_as_elim]
theorem pieceInduction {P : Text → Prop} (nil : P [])
    (plain : ∀ c s, IsPlain c → (∀ s' : Text, s'.length ≤ s.length → P s') → P (c :: s))
    (sealed : ∀ t s, Sealed t → P s → P (t ++ s))
    (hanging : ∀ t, Covered (marks .outside t []) → P t) (s : Text) : P s := by
  induction hn : s.length using Nat.strongRecOn generalizing s with
  | ind n ih =>
    cases front s with
    | nil => exact nil
    | @plain c s hc =>
        refine plain c s hc fun s' hs' => ih s'.length ?_ s' rfl
        rw [← hn, List.length_cons]
        exact Nat.lt_succ_of_le hs'
    | @sealed t s ht =>
        refine sealed t s ht (ih s.length ?_ s rfl)
        have hpos := List.length_pos_iff.mpr ht.ne_nil
        rw [← hn, List.length_append]
        omega
    | hanging h => exact hanging s h

end SecretScan.Pattern
