import Mathlib.Data.List.TakeWhile
import SecretScan.Text.Basic

/-!
# The lines of a text

A text is its lines joined by newlines. A line in the middle of it stands between what comes before
(`linesBefore`), newlines included, and what comes after (`linesAfter`), which begins with a newline
or is empty. Where lines are shortened one by one, the text is shortened, and it stays the same only
if every line does (`join_eq_iff`).

A text that is cut in two is cut in one of its lines, and the newlines in front of the cut tell
which one (`getElem?_splitOn_append`).
-/

namespace SecretScan.Text

/-- Lines that come before another one. -/
def linesBefore (lines : List Text) : Text :=
  lines.flatMap (· ++ ['\n'])

/-- What follows a line. -/
def linesAfter : List Text → Text
  | [] => []
  | line :: lines => '\n' :: join '\n' (line :: lines)

theorem join_cons (line : Text) (lines : List Text) :
    join '\n' (line :: lines) = line ++ linesAfter lines := by
  cases lines with
  | nil => exact (List.append_nil line).symm
  | cons l lines => rfl

theorem join_append_cons (before : List Text) (line : Text) (after : List Text) :
    join '\n' (before ++ line :: after) = linesBefore before ++ (line ++ linesAfter after) := by
  induction before with
  | nil => exact join_cons line after
  | cons l before ih =>
      rw [List.cons_append, join_cons]
      have hafter : linesAfter (before ++ line :: after)
          = '\n' :: join '\n' (before ++ line :: after) := by
        cases before <;> rfl
      rw [hafter, ih]
      simp [linesBefore]

theorem notMem_of_mem_splitOn {sep : Char} {t line : Text} (h : line ∈ splitOn sep t) :
    sep ∉ line := by
  induction t generalizing line with
  | nil =>
      rw [List.mem_singleton.mp h]
      exact List.not_mem_nil
  | cons c t ih =>
      rw [splitOn] at h
      split at h
      · rcases List.mem_cons.mp h with rfl | h
        · exact List.not_mem_nil
        · exact ih h
      · next hc =>
          split at h
          · rw [List.mem_singleton.mp h, List.mem_singleton]
            exact Ne.symm hc
          · next piece pieces hsplit =>
              rw [hsplit] at ih
              rcases List.mem_cons.mp h with rfl | h
              · rw [List.mem_cons, not_or]
                exact ⟨Ne.symm hc, ih List.mem_cons_self⟩
              · exact ih (List.mem_cons_of_mem piece h)

/-- A character in the middle part of a text. -/
theorem exists_middle {x y z a b : Text} {c : Char} (h : a ++ c :: b = x ++ (y ++ z))
    (hle : x.length ≤ a.length) (hlt : a.length < x.length + y.length) :
    ∃ u v, y = u ++ c :: v ∧ a = x ++ u ∧ b = v ++ z := by
  obtain ⟨u, rfl⟩ : ∃ u, a = x ++ u := by
    have hx : x <+: a := List.prefix_of_prefix_length_le (List.prefix_append x (y ++ z))
      (by rw [← h]; exact List.prefix_append a (c :: b)) hle
    obtain ⟨u, hu⟩ := hx
    exact ⟨u, hu.symm⟩
  rw [List.append_assoc, List.append_cancel_left_eq] at h
  rw [List.length_append] at hlt
  rcases List.append_eq_append_iff.mp h with ⟨v, hy, hv⟩ | ⟨v, hu, -⟩
  · cases v with
    | nil =>
        rw [hy, List.append_nil] at hlt
        omega
    | cons d v =>
        obtain ⟨rfl, rfl⟩ := List.cons.inj hv
        exact ⟨u, v, hy, rfl, rfl⟩
  · rw [hu, List.length_append] at hlt
    omega

/-! ## Shortened lines -/

variable {f : Text → Text}

theorem linesAfter_sublist (hf : ∀ line, f line <+: line) (lines : List Text) :
    (linesAfter (lines.map f)).Sublist (linesAfter lines) := by
  induction lines with
  | nil => exact .slnil
  | cons line lines ih =>
      rw [List.map_cons, linesAfter, linesAfter, join_cons, join_cons]
      exact ((hf line).sublist.append ih).cons_cons '\n'

/-- Lines that are shortened make the same text only if none of them is. -/
theorem linesAfter_eq_iff (hf : ∀ line, f line <+: line) {lines : List Text} :
    linesAfter (lines.map f) = linesAfter lines ↔ ∀ line ∈ lines, f line = line := by
  constructor
  · intro h line hmem
    induction lines with
    | nil => cases hmem
    | cons l lines ih =>
        rw [List.map_cons, linesAfter, linesAfter, join_cons, join_cons] at h
        have htext := (List.cons.inj h).2
        have hlen := congrArg List.length htext
        rw [List.length_append, List.length_append] at hlen
        have hline := (hf l).length_le
        have hafter := (linesAfter_sublist hf lines).length_le
        have hl : f l = l := (hf l).eq_of_length (by omega)
        rw [hl] at htext
        rcases List.mem_cons.mp hmem with rfl | hmem
        · exact hl
        · exact ih (List.append_cancel_left htext) hmem
  · intro h
    rw [List.map_congr_left h, List.map_id']

theorem join_eq_iff (hf : ∀ line, f line <+: line) {lines : List Text}
    (hne : lines ≠ []) : join '\n' (lines.map f) = join '\n' lines ↔
      ∀ line ∈ lines, f line = line := by
  obtain ⟨line, lines, rfl⟩ := List.exists_cons_of_ne_nil hne
  rw [← linesAfter_eq_iff hf, List.map_cons, linesAfter, linesAfter, List.cons_inj_right]

theorem join_sublist (hf : ∀ line, f line <+: line) (lines : List Text) :
    (join '\n' (lines.map f)).Sublist (join '\n' lines) := by
  cases lines with
  | nil => exact .slnil
  | cons line lines =>
      rw [List.map_cons, join_cons, join_cons]
      exact (hf line).sublist.append (linesAfter_sublist hf lines)

/-! ## The line at a cut -/

/-- The part behind the last `c`, or all of `t` if it holds none. -/
def behind (t : Text) (c : Char) : Text :=
  (before t.reverse c).reverse

variable {c : Char} {s t : Text}

theorem before_append_of_notMem (h : c ∉ s) (t : Text) : (s ++ t).before c = s ++ t.before c := by
  refine List.takeWhile_append_of_pos fun d hd => ?_
  rw [decide_eq_true_eq]
  rintro rfl
  exact h hd

theorem before_of_notMem (h : c ∉ t) : t.before c = t := by
  have happend := before_append_of_notMem h []
  rw [List.append_nil] at happend
  exact happend.trans (List.append_nil t)

theorem notMem_before (t : Text) (c : Char) : c ∉ t.before c := by
  intro h
  have hne := List.mem_takeWhile_imp h
  rw [decide_eq_true_eq] at hne
  exact hne rfl

theorem before_append_cons (h : c ∉ s) (t : Text) : before (s ++ c :: t) c = s := by
  rw [before_append_of_notMem h, before, List.takeWhile_cons_of_neg (by simp), List.append_nil]

/-- What does not come before the first `c` is empty or begins with it. -/
theorem exists_eq_before_append (t : Text) (c : Char) :
    ∃ rest, t = t.before c ++ rest ∧ (rest = [] ∨ ∃ tail, rest = c :: tail) := by
  by_cases h : c ∈ t
  · obtain ⟨front, back, rfl, hfront⟩ := List.eq_append_cons_of_mem h
    rw [before_append_cons hfront]
    exact ⟨c :: back, rfl, .inr ⟨back, rfl⟩⟩
  · rw [before_of_notMem h]
    exact ⟨[], (List.append_nil t).symm, .inl rfl⟩

theorem before_append_of_mem (h : c ∈ s) (t : Text) : (s ++ t).before c = s.before c := by
  obtain ⟨front, back, rfl, hfront⟩ := List.eq_append_cons_of_mem h
  rw [List.append_assoc, List.cons_append, before_append_cons hfront, before_append_cons hfront]

theorem behind_of_notMem (h : c ∉ t) : behind t c = t := by
  rw [behind, before_of_notMem (fun hc => h (List.mem_reverse.mp hc)), List.reverse_reverse]

theorem behind_append_of_mem (s : Text) (h : c ∈ t) : behind (s ++ t) c = behind t c := by
  rw [behind, List.reverse_append, before_append_of_mem (List.mem_reverse.mpr h), behind]

theorem behind_cons_self (c : Char) (t : Text) : behind (c :: t) c = behind t c := by
  by_cases h : c ∈ t
  · exact behind_append_of_mem [c] h
  · have hrev : c ∉ t.reverse := fun hc => h (List.mem_reverse.mp hc)
    rw [behind_of_notMem h, behind, List.reverse_cons, before_append_cons hrev, List.reverse_reverse]

theorem behind_append_cons (s : Text) (h : c ∉ t) : behind (s ++ c :: t) c = t := by
  rw [behind_append_of_mem s List.mem_cons_self, behind_cons_self, behind_of_notMem h]

theorem notMem_behind (t : Text) (c : Char) : c ∉ behind t c := fun h =>
  notMem_before t.reverse c (List.mem_reverse.mp h)

/-- What does not come behind the last `c` is empty or ends with it. -/
theorem exists_eq_append_behind (t : Text) (c : Char) :
    ∃ front, t = front ++ behind t c ∧ (front = [] ∨ ∃ init, front = init ++ [c]) := by
  obtain ⟨rest, ht, hrest⟩ := exists_eq_before_append t.reverse c
  refine ⟨rest.reverse, ?_, ?_⟩
  · rw [behind, ← List.reverse_append, ← ht, List.reverse_reverse]
  · rcases hrest with rfl | ⟨tail, rfl⟩
    · exact .inl rfl
    · exact .inr ⟨tail.reverse, List.reverse_cons⟩

theorem head?_splitOn (c : Char) (t : Text) : (splitOn c t).head? = some (t.before c) := by
  induction t with
  | nil => rfl
  | cons d t ih =>
      rw [splitOn]
      split
      · next hd => rw [hd, before, List.takeWhile_cons_of_neg (by simp)]; rfl
      · next hd =>
          obtain ⟨piece, pieces, hsplit⟩ := List.exists_cons_of_ne_nil (splitOn_ne_nil c t)
          rw [hsplit] at ih ⊢
          rw [before, List.takeWhile_cons_of_pos (by simpa using hd)]
          exact congrArg (fun piece => some (d :: piece)) (Option.some.inj ih)

/-- **A text that is cut in two is cut in the piece that the separators in front of it count.** The
piece is made of what comes behind the last separator in front of the cut and of what comes before
the first one behind it. -/
theorem getElem?_splitOn_append (c : Char) (s t : Text) :
    (splitOn c (s ++ t))[s.count c]? = some (behind s c ++ t.before c) := by
  induction s with
  | nil =>
      rw [List.count_nil, ← List.head?_eq_getElem?]
      exact head?_splitOn c t
  | cons d s ih =>
      rw [List.cons_append, splitOn]
      split
      · next hd =>
          subst hd
          rw [List.count_cons_self, List.getElem?_cons_succ, ih, behind_cons_self]
      · next hd =>
          obtain ⟨piece, pieces, hsplit⟩ := List.exists_cons_of_ne_nil (splitOn_ne_nil c (s ++ t))
          rw [hsplit] at ih ⊢
          rw [List.count_cons_of_ne hd]
          by_cases hs : c ∈ s
          · -- the cut lies in a later piece
            obtain ⟨n, hn⟩ := Nat.exists_eq_add_one.mpr (List.count_pos_iff.mpr hs)
            rw [hn, List.getElem?_cons_succ] at ih ⊢
            rw [ih]
            exact congrArg (fun line => some (line ++ t.before c)) (behind_append_of_mem [d] hs).symm
          · rw [List.count_eq_zero_of_not_mem hs] at ih ⊢
            rw [behind_of_notMem hs] at ih
            have hds : c ∉ d :: s := by
              rw [List.mem_cons, not_or]
              exact ⟨Ne.symm hd, hs⟩
            rw [behind_of_notMem hds]
            exact congrArg (fun line => some (d :: line)) (Option.some.inj ih)

end SecretScan.Text
