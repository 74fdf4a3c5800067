import SecretScan.Proofs.Pattern.Opener

/-!
# What a pass makes of a pattern

A pass walks a pattern with a bound on its steps and an `Edit` rule that sees the whole walk. The
passes that bring a pattern into native form act at a `(` that is syntax, and what they do there
depends on the text that follows only. `Rewrites` says what comes out, without walks and bounds: one
rule for each kind of piece. `edit_rewrites` gives it for every such pass, so a fact about a pass is
an induction over a rewriting.
-/

namespace SecretScan.Pattern

/-- What a pass writes in place of the next `length` characters. -/
structure Span (α : Type) where
  /-- What is written. -/
  out : Text
  /-- How many characters it stands for. -/
  length : Nat
  /-- What is noted. -/
  note : α

/-- `Rewrites f s t notes`: a pass that replaces spans as `f` says makes `t` of `s`. -/
inductive Rewrites {α : Type} (f : Text → Option (Span α)) : Text → Text → List α → Prop where
  | nil : Rewrites f [] [] []
  | keep {c : Char} {s t : Text} {notes : List α} :
      IsPlain c → f (c :: s) = none → Rewrites f s t notes → Rewrites f (c :: s) (c :: t) notes
  | span {c : Char} {s t : Text} {notes : List α} {span : Span α} :
      IsPlain c → f (c :: s) = some span → Rewrites f ((c :: s).drop span.length) t notes →
      Rewrites f (c :: s) (span.out ++ t) (span.note :: notes)
  | sealed {p s t : Text} {notes : List α} :
      Sealed p → Rewrites f s t notes → Rewrites f (p ++ s) (p ++ t) notes
  | hanging {p : Text} : Covered (marks .outside p []) → Rewrites f p p []

/-- `Follows rule f`: at a `(` that is syntax `rule` replaces the span that `f` says, and elsewhere
it copies. -/
structure Follows {α : Type} (rule : Walk → Edit α) (f : Text → Option (Span α)) : Prop where
  elsewhere : ∀ w, w.atSyntax '(' = false → rule w = .keep
  at_paren : ∀ w, w.atSyntax '(' = true → rule w =
    match f w.rest with
    | some span => .replace span.out (w.pos + span.length) span.note
    | none => .keep
  only_paren : ∀ c s, c ≠ '(' → f (c :: s) = none
  length_pos : ∀ s span, f s = some span → 0 < span.length

/-- A rule that asks `f` at every `(` that is syntax follows it. -/
theorem Follows.of_eq {α : Type} {rule : Walk → Edit α} {f : Text → Option (Span α)}
    (hrule : ∀ w, rule w = if w.atSyntax '(' then
        match f w.rest with
        | some span => .replace span.out (w.pos + span.length) span.note
        | none => .keep
      else .keep)
    (hopen : ∀ s span, f s = some span → (∃ rest, s = '(' :: rest) ∧ 0 < span.length) :
    Follows rule f where
  elsewhere := by
    intro w h
    rw [hrule, h]
    rfl
  at_paren := by
    intro w h
    rw [hrule, if_pos h]
  only_paren := by
    intro c s h
    cases hspan : f (c :: s) with
    | none => rfl
    | some span =>
        obtain ⟨⟨rest, hs⟩, -⟩ := hopen _ _ hspan
        exact absurd (List.cons.inj hs).1 h
  length_pos := fun s span h => (hopen s span h).2

/-! ## Where syntax stands -/

namespace Walk

theorem atSyntax_of_outside {w : Walk} {c d : Char} {s : Text} (h : w.Is .outside)
    (hr : w.rest = c :: s) : w.atSyntax d = decide (c = d) := by
  rw [h.atSyntax_eq, hr]
  simp

/-- Where a mark is no syntax, no syntax is seen. -/
theorem atSyntax_of_covered {w : Walk} {m : Mode} {c : Char} {s : Text} (h : w.Is m)
    (hr : w.rest = c :: s) (hc : (m.read c s).1 ≠ .char) : w.atSyntax '(' = false := by
  rw [h.atSyntax_eq, hr, Bool.and_eq_false_iff, decide_eq_false_iff_not, decide_eq_false_iff_not]
  by_cases hm : m = .outside
  · subst hm
    right
    rintro ⟨⟩
    exact hc rfl
  · exact .inl hm

theorem jump_rest (w : Walk) (n : Nat) : (w.jump (w.pos + n)).rest = w.rest.drop n := by
  rw [rest, rest, List.drop_drop]
  rfl

/-! ## A pass step by step -/

variable {α : Type} {rule : Walk → Edit α} {f : Text → Option (Span α)}

theorem edit_nil {w : Walk} (h : w.rest = []) (n : Nat) : edit rule n w = ([], []) := by
  cases n with
  | zero => rfl
  | succ n => simp only [edit, step_of_rest_nil h]

/-- A pass that copies a character. -/
theorem edit_keep {w : Walk} {c : Char} {s : Text} (hr : w.rest = c :: s) (hk : rule w = .keep)
    (n : Nat) : edit rule (n + 1) w =
      (c :: (edit rule n (w.stepOn c).2).1, (edit rule n (w.stepOn c).2).2) := by
  simp only [edit, step_of_rest_cons hr, hk]

/-- A pass that replaces a span. -/
theorem edit_span {w : Walk} {c : Char} {s : Text} {span : Span α} (hr : w.rest = c :: s)
    (hk : rule w = .replace span.out (w.pos + span.length) span.note) (n : Nat) :
    edit rule (n + 1) w =
      (span.out ++ (edit rule n (w.jump (w.pos + span.length))).1,
        span.note :: (edit rule n (w.jump (w.pos + span.length))).2) := by
  simp only [edit, step_of_rest_cons hr, hk]

/-- A pass copies what is no syntax and comes out behind it in the mode of the walk. -/
theorem edit_covered (hf : Follows rule f) (t : Text) {s : Text} {w : Walk} {m : Mode} {n : Nat}
    (h : w.Is m) (hr : w.rest = t ++ s) (hc : Covered (marks m t s)) (hn : t.length ≤ n) :
    ∃ w' : Walk, w'.Is (m.behind t s) ∧ w'.rest = s
      ∧ edit rule n w =
        (t ++ (edit rule (n - t.length) w').1, (edit rule (n - t.length) w').2) := by
  induction t generalizing w m n with
  | nil => exact ⟨w, h, hr, rfl⟩
  | cons c t ih =>
      cases n with
      | zero => cases hn
      | succ n =>
          rw [marks] at hc
          have hkeep := hf.elsewhere w (atSyntax_of_covered h hr (hc _ List.mem_cons_self))
          obtain ⟨w', hw', hr', he⟩ := ih (h.stepOn hr).2 (stepOn_rest hr)
            (fun k hk => hc k (List.mem_cons_of_mem _ hk)) (Nat.le_of_succ_le_succ hn)
          refine ⟨w', hw', hr', ?_⟩
          rw [edit_keep hr hkeep, he, List.length_cons, Nat.succ_sub_succ]
          rfl

end Walk

/-! ## Passes as rewritings -/

section

variable {α : Type} {rule : Walk → Edit α} {f : Text → Option (Span α)}

theorem Walk.edit_rewrites (hf : Follows rule f) (s : Text) :
    ∀ {w : Walk} {n : Nat}, w.Is .outside → w.rest = s → s.length ≤ n →
      Rewrites f s (edit rule n w).1 (edit rule n w).2 := by
  induction s using pieceInduction with
  | nil =>
      intro w n _ hr _
      rw [edit_nil hr]
      exact .nil
  | plain c s hplain ih =>
      intro w n hw hr hn
      cases n with
      | zero => cases hn
      | succ n =>
          have hle := Nat.le_of_succ_le_succ hn
          have hnext := hw.stepOn hr
          rw [Mode.read_plain hplain] at hnext
          -- a character is copied for two reasons: it is no `(`, or nothing stands there
          have hcopy : f (c :: s) = none → rule w = .keep →
              Rewrites f (c :: s) (edit rule (n + 1) w).1 (edit rule (n + 1) w).2 := by
            intro hnone hk
            rw [edit_keep hr hk]
            exact .keep hplain hnone (ih s (Nat.le_refl _) hnext.2 (stepOn_rest hr) hle)
          have hat := atSyntax_of_outside (d := '(') hw hr
          by_cases hc : c = '('
          · have hrule := hf.at_paren w (by rw [hat]; simp [hc])
            rw [hr] at hrule
            cases hspan : f (c :: s) with
            | none =>
                rw [hspan] at hrule
                exact hcopy hspan hrule
            | some span =>
                rw [hspan] at hrule
                have hpos := hf.length_pos _ _ hspan
                -- the pass goes on behind the span, which is further than one character
                have hdrop : ((c :: s).drop span.length).length ≤ s.length := by
                  rw [List.length_drop, List.length_cons]
                  omega
                rw [edit_span hr hrule]
                refine .span hplain hspan (ih _ hdrop (jump_is _ _) ?_ (Nat.le_trans hdrop hle))
                rw [jump_rest, hr]
          · exact hcopy (hf.only_paren c s hc) (hf.elsewhere w (by rw [hat]; simp [hc]))
  | sealed t s ht ih =>
      intro w n hw hr hn
      obtain ⟨hb, hm⟩ := ht.behind_ahead s
      have hlen : t.length ≤ n ∧ s.length ≤ n - t.length := by
        rw [List.length_append] at hn
        omega
      obtain ⟨w', hw', hr', he⟩ := edit_covered hf t hw hr (by rw [hm]; exact ht.covered) hlen.1
      rw [hb] at hw'
      rw [he]
      exact .sealed ht (ih hw' hr' hlen.2)
  | hanging t ht =>
      intro w n hw hr hn
      obtain ⟨w', -, hr', he⟩ := edit_covered hf t hw (hr.trans (List.append_nil t).symm) ht hn
      rw [he, edit_nil hr', List.append_nil]
      exact .hanging ht

/-- **A pass is a rewriting.** -/
theorem edit_rewrites (hf : Follows rule f) (pattern : Text) :
    Rewrites f pattern (edit rule pattern).1 (edit rule pattern).2 :=
  Walk.edit_rewrites hf pattern (Walk.start_is pattern 0) rfl (Nat.le_refl _)

end

end SecretScan.Pattern
