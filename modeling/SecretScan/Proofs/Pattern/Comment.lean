import SecretScan.Pattern.Comment
import SecretScan.Proofs.Pattern.Place
import SecretScan.Proofs.Pattern.Rewriting

/-!
# Skipping comments

Two passes remove comments: the groups `(?#…)`, and the line comments of free-spacing mode. Both
read the pattern from left to right, skip from where a comment begins to the character that ends it,
and copy everything else. `CommentForm` is what they differ in, and `CommentForm.kept` is what is
left of a text, without walks, offsets and bounds. It goes through the text character by character,
so it may be cut anywhere (`kept_append`): the second part is read from the phase in which the first
one ends.

`Governs.removes` ties a pass to its form once and for all. The group pass gives up where no `)`
follows, but then no group can be closed any more, and nothing is skipped either.
-/

namespace SecretScan.Pattern

/-- A kind of comment. -/
structure CommentForm where
  /-- Whether a comment begins at the front of a text; some do only where a word may begin. -/
  begins : Bool → Text → Bool
  /-- The character that ends a comment. -/
  last : Char
  /-- Whether that character stays. -/
  keepsLast : Bool

/-- Where a pass that removes comments is. -/
inductive Phase where
  /-- In the pattern, in the mode `m`; `start` tells whether a word may begin here. -/
  | reading (m : Mode) (start : Bool)
  /-- In a comment. -/
  | skipping
deriving DecidableEq

namespace CommentForm

variable (k : CommentForm)

/-- Reads a character in front of `ahead`: whether it stays, and the phase behind it. -/
def step : Phase → Char → Text → Bool × Phase
  | .reading m start, c, ahead =>
    if m = .outside ∧ k.begins start (c :: ahead) = true then (false, .skipping)
    else (true, .reading (m.read c ahead).2 (Text.isBlank c))
  | .skipping, c, _ =>
    if c = k.last then (k.keepsLast, .reading .outside (Text.isBlank c)) else (false, .skipping)

/-- What is left of `t` in front of `ahead`. -/
def kept : Phase → Text → Text → Text
  | _, [], _ => []
  | ph, c :: t, ahead =>
    if (k.step ph c (t ++ ahead)).1 then c :: kept (k.step ph c (t ++ ahead)).2 t ahead
    else kept (k.step ph c (t ++ ahead)).2 t ahead

/-- The phase behind `t` in front of `ahead`. -/
def behind : Phase → Text → Text → Phase
  | ph, [], _ => ph
  | ph, c :: t, ahead => behind (k.step ph c (t ++ ahead)).2 t ahead

theorem behind_append (ph : Phase) (s t ahead : Text) :
    k.behind ph (s ++ t) ahead = k.behind (k.behind ph s (t ++ ahead)) t ahead := by
  induction s generalizing ph with
  | nil => rfl
  | cons c s ih => rw [List.cons_append, behind, ih, behind, List.append_assoc]

/-- **Comments may be removed part by part.** -/
theorem kept_append (ph : Phase) (s t ahead : Text) :
    k.kept ph (s ++ t) ahead
      = k.kept ph s (t ++ ahead) ++ k.kept (k.behind ph s (t ++ ahead)) t ahead := by
  induction s generalizing ph with
  | nil => rfl
  | cons c s ih =>
      rw [List.cons_append, kept, kept, behind, ih, List.append_assoc]
      split
      · rw [List.cons_append]
      · rfl

theorem kept_sublist (ph : Phase) (s ahead : Text) : (k.kept ph s ahead).Sublist s := by
  induction s generalizing ph with
  | nil => exact .slnil
  | cons c s ih =>
      rw [kept]
      split
      · exact (ih _).cons_cons c
      · exact (ih _).cons c

/-! ## Inside and outside a comment -/

variable {k}

theorem begins_cons {start : Bool} {c : Char} {s ahead : Text}
    (h : k.begins start (c :: (s ++ ahead)) = true) :
    k.kept (.reading .outside start) (c :: s) ahead = k.kept .skipping s ahead
      ∧ k.behind (.reading .outside start) (c :: s) ahead = k.behind .skipping s ahead := by
  have hstep : k.step (.reading .outside start) c (s ++ ahead) = (false, .skipping) :=
    if_pos ⟨rfl, h⟩
  rw [kept, behind, hstep]
  exact ⟨rfl, rfl⟩

theorem reads_cons {m : Mode} {start : Bool} {c : Char} {s ahead : Text}
    (h : m = .outside → k.begins start (c :: (s ++ ahead)) = false) :
    k.kept (.reading m start) (c :: s) ahead
        = c :: k.kept (.reading (m.read c (s ++ ahead)).2 (Text.isBlank c)) s ahead
      ∧ k.behind (.reading m start) (c :: s) ahead
        = k.behind (.reading (m.read c (s ++ ahead)).2 (Text.isBlank c)) s ahead := by
  have hstep : k.step (.reading m start) c (s ++ ahead)
      = (true, .reading (m.read c (s ++ ahead)).2 (Text.isBlank c)) := by
    refine if_neg fun hb => ?_
    rw [h hb.1] at hb
    cases hb.2
  rw [kept, behind, hstep]
  exact ⟨rfl, rfl⟩

/-- A comment that does not end hides everything. -/
theorem skipping_of_notMem {u : Text} (h : k.last ∉ u) (ahead : Text) :
    k.kept .skipping u ahead = [] ∧ k.behind .skipping u ahead = .skipping := by
  induction u with
  | nil => exact ⟨rfl, rfl⟩
  | cons c u ih =>
      obtain ⟨hc, hu⟩ := not_or.mp (mt List.mem_cons.mpr h)
      have hstep : k.step .skipping c (u ++ ahead) = (false, .skipping) := if_neg (Ne.symm hc)
      rw [kept, behind, hstep]
      exact ih hu

/-- A comment hides all up to the character that ends it. -/
theorem skipping_of_last {u : Text} (h : k.last ∉ u) (v ahead : Text) :
    k.kept .skipping (u ++ k.last :: v) ahead = (if k.keepsLast then [k.last] else [])
        ++ k.kept (.reading .outside (Text.isBlank k.last)) v ahead
      ∧ k.behind .skipping (u ++ k.last :: v) ahead
        = k.behind (.reading .outside (Text.isBlank k.last)) v ahead := by
  obtain ⟨hkept, hbehind⟩ := skipping_of_notMem h (k.last :: v ++ ahead)
  have hstep : k.step .skipping k.last (v ++ ahead)
      = (k.keepsLast, .reading .outside (Text.isBlank k.last)) := if_pos rfl
  rw [kept_append, behind_append, hkept, hbehind, List.nil_append, kept, behind, hstep]
  refine ⟨?_, rfl⟩
  cases k.keepsLast <;> rfl

/-- The end of a comment is copied when the pass comes to it. -/
theorem kept_last (hplain : IsPlain k.last) {start : Bool}
    (h : ∀ s, k.begins start (k.last :: s) = false) (v : Text) :
    k.kept (.reading .outside start) (k.last :: v) []
      = k.last :: k.kept (.reading .outside (Text.isBlank k.last)) v [] := by
  rw [(reads_cons fun _ => h _).1, Mode.read_plain hplain]

/-- Where no comment begins, everything stays, and the pass is in the mode of the walk. -/
theorem reading_of_plain {m : Mode} {start : Bool} {s ahead : Text}
    (h : ∀ a c b start, s = a ++ c :: b → m.behind a (c :: b ++ ahead) = .outside →
      k.begins start (c :: (b ++ ahead)) = false) :
    k.kept (.reading m start) s ahead = s
      ∧ ∃ start', k.behind (.reading m start) s ahead = .reading (m.behind s ahead) start' := by
  induction s generalizing m start with
  | nil => exact ⟨rfl, start, rfl⟩
  | cons c s ih =>
      have hhere : m = .outside → k.begins start (c :: (s ++ ahead)) = false :=
        fun hm => h [] c s start rfl hm
      obtain ⟨hkeep, hnext⟩ := reads_cons hhere
      have hrest : ∀ a d b st, s = a ++ d :: b →
          (m.read c (s ++ ahead)).2.behind a (d :: b ++ ahead) = .outside →
            k.begins st (d :: (b ++ ahead)) = false := by
        intro a d b st hs hm
        refine h (c :: a) d b st (congrArg (c :: ·) hs) ?_
        rw [Mode.behind, ← hm, hs, List.append_assoc]
      obtain ⟨hkept, start', hbehind⟩ := @ih _ (Text.isBlank c) hrest
      rw [hkeep, hnext, Mode.behind]
      exact ⟨congrArg (c :: ·) hkept, start', hbehind⟩

end CommentForm

/-! ## Passes -/

namespace Walk

theorem edit_stop {α : Type} {rule : Walk → Edit α} {w : Walk} {c : Char} {s out : Text}
    (hr : w.rest = c :: s) (hk : rule w = .stop out) (n : Nat) :
    edit rule (n + 1) w = (out, []) := by
  simp only [edit, step_of_rest_cons hr, hk]

theorem stepOn_atWordStart {w : Walk} {c : Char} {s : Text} (hr : w.rest = c :: s) :
    (w.stepOn c).2.atWordStart = Text.isBlank c := by
  unfold atWordStart
  rw [stepOn_pos, stepOn_text]
  show (w.text[w.pos]?).any Text.isBlank = _
  rw [text_of_rest hr]
  rfl

/-- Behind a jump the character in front of it tells whether a word may begin. -/
theorem jump_atWordStart {w : Walk} {u v : Text} {d : Char} (hr : w.rest = u ++ d :: v) :
    (w.jump (w.pos + (u.length + 1))).atWordStart = Text.isBlank d := by
  have hd : w.text[w.pos + u.length]? = some d := by
    rw [← List.getElem?_drop, show w.text.drop w.pos = u ++ d :: v from hr]
    simp
  show (w.text[w.pos + u.length]?).any Text.isBlank = _
  rw [hd]
  rfl

end Walk

/-- What a pass answers outside any class and escape, with something left to read. -/
inductive CommentForm.Answers (k : CommentForm) (w : Walk) : Edit Unit → Prop where
  /-- No comment begins. -/
  | keep : k.begins w.atWordStart w.rest = false → Answers k w .keep
  /-- A comment is skipped up to its end. -/
  | skip {c : Char} {u v : Text} {n : Nat} :
      k.begins w.atWordStart w.rest = true → w.rest = c :: (u ++ k.last :: v) → k.last ∉ u →
      n = (if k.keepsLast then u.length + 1 else u.length + 1 + 1) →
      Answers k w (.replace [] (w.pos + n) ())
  /-- A comment that does not end is removed with all that follows. -/
  | endless : k.begins w.atWordStart w.rest = true → k.last ∉ w.rest → Answers k w (.stop [])
  /-- The rest holds no comment. -/
  | rest : (∀ start a b, w.rest = a ++ b → k.begins start b = false) → Answers k w (.stop w.rest)

/-- `k.Governs rule`: the pass with this rule removes the comments of the form `k`. -/
structure CommentForm.Governs (k : CommentForm) (rule : Walk → Edit Unit) : Prop where
  covered : ∀ w m, w.Is m → m ≠ .outside → rule w = .keep
  outside : ∀ w, w.Is .outside → w.rest ≠ [] → k.Answers w (rule w)
  last_plain : IsPlain k.last
  last_begins : ∀ start s, k.begins start (k.last :: s) = false

/-- Within the bound `n`, the pass leaves of a text what is left of it without comments. -/
def CommentForm.Removes (k : CommentForm) (rule : Walk → Edit Unit) (n : Nat) : Prop :=
  ∀ w m, w.Is m → w.rest.length ≤ n →
    (Walk.edit rule n w).1 = k.kept (.reading m w.atWordStart) w.rest []

namespace CommentForm.Removes

variable {k : CommentForm} {rule : Walk → Edit Unit} {n : Nat} {w : Walk} {c : Char} {s : Text}

theorem copy (h : k.Removes rule n) {m : Mode} (hw : w.Is m) (hr : w.rest = c :: s)
    (hn : s.length ≤ n) (hrule : rule w = .keep)
    (hnone : m = .outside → k.begins w.atWordStart w.rest = false) :
    (Walk.edit rule (n + 1) w).1 = k.kept (.reading m w.atWordStart) w.rest [] := by
  have hnext := h _ _ (hw.stepOn hr).2 (by rw [Walk.stepOn_rest hr]; exact hn)
  rw [Walk.stepOn_rest hr, Walk.stepOn_atWordStart hr] at hnext
  rw [hr] at hnone ⊢
  rw [Walk.edit_keep hr hrule, hnext, (reads_cons (by simpa using hnone)).1, List.append_nil]

theorem skip (h : k.Removes rule n) (hk : k.Governs rule) {u v : Text} {len : Nat}
    (hr : w.rest = c :: (u ++ k.last :: v)) (hn : (u ++ k.last :: v).length ≤ n)
    (hrule : rule w = .replace [] (w.pos + len) ())
    (hbegins : k.begins w.atWordStart w.rest = true) (hlast : k.last ∉ u)
    (hlen : len = if k.keepsLast then u.length + 1 else u.length + 1 + 1) :
    (Walk.edit rule (n + 1) w).1 = k.kept (.reading .outside w.atWordStart) w.rest [] := by
  have hjump := h _ _ (w.jump_is (w.pos + len)) (by
    rw [Walk.jump_rest, hr, List.length_drop, List.length_cons]
    split at hlen <;> omega)
  have hedit := @Walk.edit_span _ rule w c _ ⟨[], len, ()⟩ hr hrule n
  rw [hr] at hbegins ⊢
  rw [hedit, List.nil_append, hjump, Walk.jump_rest, hr, hlen,
    (begins_cons (by simpa using hbegins)).1, (skipping_of_last hlast v []).1]
  cases hlasts : k.keepsLast with
  | true =>
      -- the pass goes on at the end of the comment and copies it
      have hend : k.last :: v = (c :: (u ++ k.last :: v)).drop (u.length + 1) := by simp
      rw [if_pos rfl, if_pos rfl, ← hend]
      exact kept_last hk.last_plain (hk.last_begins _) v
  | false =>
      have hbehind : v = (c :: (u ++ k.last :: v)).drop (u.length + 1 + 1) := by simp
      rw [if_neg nofun, if_neg nofun, ← hbehind]
      exact congrArg (fun start => k.kept (.reading .outside start) v [])
        (@Walk.jump_atWordStart w (c :: u) v k.last hr)

theorem endless (hr : w.rest = c :: s) (hrule : rule w = .stop [])
    (hbegins : k.begins w.atWordStart w.rest = true) (hlast : k.last ∉ w.rest) :
    (Walk.edit rule (n + 1) w).1 = k.kept (.reading .outside w.atWordStart) w.rest [] := by
  rw [hr] at hbegins hlast ⊢
  have hs : k.last ∉ s := fun h => hlast (List.mem_cons_of_mem c h)
  rw [Walk.edit_stop hr hrule, (begins_cons (by simpa using hbegins)).1,
    (skipping_of_notMem hs []).1]

theorem rest (hr : w.rest = c :: s) (hrule : rule w = .stop w.rest)
    (hnone : ∀ start a b, w.rest = a ++ b → k.begins start b = false) :
    (Walk.edit rule (n + 1) w).1 = k.kept (.reading .outside w.atWordStart) w.rest [] := by
  have hplain : ∀ a d b start, w.rest = a ++ d :: b →
      Mode.outside.behind a (d :: b ++ []) = .outside →
        k.begins start (d :: (b ++ [])) = false := by
    intro a d b start hsplit _
    rw [List.append_nil]
    exact hnone start a (d :: b) hsplit
  rw [Walk.edit_stop hr hrule, (reading_of_plain hplain).1]

end CommentForm.Removes

/-- **A pass that is governed by a form removes its comments.** -/
theorem CommentForm.Governs.removes {k : CommentForm} {rule : Walk → Edit Unit}
    (hk : k.Governs rule) (n : Nat) : k.Removes rule n := by
  induction n with
  | zero =>
      intro w m _ hn
      rw [List.length_eq_zero_iff.mp (Nat.le_zero.mp hn)]
      rfl
  | succ n ih =>
      intro w m hw hn
      cases hr : w.rest with
      | nil => rw [Walk.edit_nil hr]; rfl
      | cons c s =>
          rw [hr, List.length_cons] at hn
          rw [← hr]
          by_cases hm : m = .outside
          · subst hm
            have hanswer := hk.outside w hw (by rw [hr]; exact List.cons_ne_nil c s)
            generalize hrule : rule w = answer at hanswer
            cases hanswer with
            | keep hnone => exact ih.copy hw hr (by omega) hrule fun _ => hnone
            | skip hbegins hrest hlast hlen =>
                obtain ⟨rfl, rfl⟩ := List.cons.inj (hr.symm.trans hrest)
                exact ih.skip hk hr (by omega) hrule hbegins hlast hlen
            | endless hbegins hlast => exact Removes.endless hr hrule hbegins hlast
            | rest hnone => exact Removes.rest hr hrule hnone
          · exact ih.copy hw hr (by omega) (hk.covered w m hw hm) fun h => absurd h hm

/-! ## The two kinds of comments -/

theorem indexFrom?_of_split {t u v : Text} {c : Char} {start : Nat}
    (h : t.drop start = u ++ c :: v) (hu : c ∉ u) :
    Text.indexFrom? t c start = some (u.length + start) := by
  have hnone : u.findIdx? (· = c) = none :=
    List.findIdx?_eq_none_iff.mpr fun d hd => by simpa using fun e : d = c => hu (e ▸ hd)
  have hfind : (u ++ c :: v).findIdx? (· = c) = some u.length := by
    rw [List.findIdx?_append, hnone, List.findIdx?_cons, if_pos (decide_eq_true rfl)]
    simp
  rw [Text.indexFrom?, h, hfind]
  rfl

theorem indexFrom?_of_notMem {t : Text} {c : Char} {start : Nat} (h : c ∉ t.drop start) :
    Text.indexFrom? t c start = none := by
  rw [Text.indexFrom?, List.findIdx?_eq_none_iff.mpr fun d hd => by
    simpa using fun e : d = c => h (e ▸ hd)]
  rfl

theorem Walk.startsWith_zero (w : Walk) (s : Text) :
    w.startsWith s 0 = (decide (w.pos ≤ w.text.length) && s.isPrefixOf w.rest) := by
  rw [startsWith, Int.add_zero]
  rfl

/-- Comment groups. One begins only if a `)` follows. -/
def commentGroup : CommentForm where
  begins _ s := ['(', '?', '#'].isPrefixOf s && s.contains ')'
  last := ')'
  keepsLast := false

/-- Line comments of free-spacing mode. The newline is no part of them. -/
def lineComment : CommentForm where
  begins start s := start && s.head? = some '#'
  last := '\n'
  keepsLast := true

/-- In front of what looks like a comment group, the pass skips it or finds that none is closed any
more. -/
theorem commentGroup_answers {w : Walk} {r : Text} (hw : w.Is .outside)
    (hr : w.rest = '(' :: '?' :: '#' :: r) : commentGroup.Answers w (commentGroupEdit w) := by
  have hdrop : w.text.drop (w.pos + 3) = r := by
    rw [← List.drop_drop, show w.text.drop w.pos = _ from hr]
    rfl
  have hlt : w.pos ≤ w.text.length := by
    by_contra hlt
    have hnil : w.rest = [] := List.drop_eq_nil_of_le (by omega)
    rw [hr] at hnil
    cases hnil
  have hcond : (w.atSyntax '(' && w.startsWith ['(', '?', '#'] 0) = true := by
    rw [hw.atSyntax_eq, w.startsWith_zero, hr, decide_eq_true hlt]
    rfl
  unfold commentGroupEdit
  rw [if_pos hcond]
  by_cases hclose : ')' ∈ r
  · obtain ⟨u, v, rfl, hu⟩ := List.eq_append_cons_of_mem hclose
    rw [indexFrom?_of_split hdrop hu]
    have hlen : u.length + (w.pos + 3) + 1 = w.pos + (('?' :: '#' :: u).length + 1 + 1) := by
      rw [List.length_cons, List.length_cons]
      omega
    dsimp only
    rw [hlen]
    refine .skip (c := '(') (u := '?' :: '#' :: u) (v := v) ?_ hr ?_ rfl
    · rw [hr]
      simp [commentGroup]
    · simpa [commentGroup] using hu
  · -- a group that begins further on is not closed either
    rw [indexFrom?_of_notMem (by rw [hdrop]; exact hclose)]
    refine .rest fun start a b hab => ?_
    have hb : ')' ∉ b := by
      intro h
      have hmem : ')' ∈ w.rest := by
        rw [hab]
        exact List.mem_append_right a h
      rw [hr] at hmem
      simp [hclose] at hmem
    simp [commentGroup, hb]

theorem commentGroup_governs : commentGroup.Governs commentGroupEdit where
  covered := by
    intro w m hw hm
    rw [commentGroupEdit, hw.atSyntax_eq, decide_eq_false hm]
    rfl
  outside := by
    intro w hw _
    by_cases hopen : ['(', '?', '#'] <+: w.rest
    · obtain ⟨r, hr⟩ := hopen
      exact commentGroup_answers hw hr.symm
    · have hnone : ['(', '?', '#'].isPrefixOf w.rest = false := by
        rw [Bool.eq_false_iff]
        exact fun h => hopen (List.isPrefixOf_iff_prefix.mp h)
      have hkeep : commentGroupEdit w = .keep := by
        rw [commentGroupEdit, w.startsWith_zero, hnone, Bool.and_false, Bool.and_false]
        rfl
      rw [hkeep]
      refine .keep ?_
      show (_ && _) = false
      rw [hnone, Bool.false_and]
  last_plain := by decide
  last_begins := by
    intro start s
    rfl

theorem lineComment_governs : lineComment.Governs lineCommentEdit where
  covered := by
    intro w m hw hm
    rw [lineCommentEdit, hw.atSyntax_eq, decide_eq_false hm]
    rfl
  outside := by
    intro w hw hne
    obtain ⟨c, s, hr⟩ := List.exists_cons_of_ne_nil hne
    have hcond : (w.atSyntax '#' && w.atWordStart)
        = lineComment.begins w.atWordStart w.rest := by
      rw [hw.atSyntax_eq]
      exact Bool.and_comm ..
    unfold lineCommentEdit
    rw [hcond]
    cases hbegins : lineComment.begins w.atWordStart w.rest with
    | false => exact .keep hbegins
    | true =>
        rw [if_pos rfl]
        have hc : c ≠ '\n' := by
          rintro rfl
          rw [hr] at hbegins
          simp [lineComment] at hbegins
        by_cases hnewline : '\n' ∈ s
        · obtain ⟨u, v, rfl, hu⟩ := List.eq_append_cons_of_mem hnewline
          have hfind : Text.indexFrom? w.text '\n' w.pos = some ((c :: u).length + w.pos) := by
            refine indexFrom?_of_split (v := v) hr ?_
            simp [hu, hc.symm]
          rw [hfind, Nat.add_comm]
          exact .skip (c := c) (u := u) (v := v) hbegins hr hu rfl
        · have hnone : '\n' ∉ w.rest := by
            rw [hr]
            simp [hnewline, hc.symm]
          rw [indexFrom?_of_notMem hnone]
          exact .endless hbegins hnone
  last_plain := by decide
  last_begins := by
    intro start s
    simp [lineComment]

/-- **Comment groups are skipped.** -/
theorem stripCommentGroups_eq (pattern : Text) :
    stripCommentGroups pattern = commentGroup.kept (.reading .outside true) pattern [] :=
  commentGroup_governs.removes _ _ _ (Walk.start_is pattern 0) (Nat.le_refl _)

/-- Where nothing looks like a comment group, none begins. -/
theorem commentGroup_begins_of_free {a b : Text} {c : Char} (start : Bool)
    (h : ¬ ['(', '?', '#'] <:+: a ++ c :: b) : commentGroup.begins start (c :: b) = false := by
  rw [Bool.eq_false_iff]
  intro hbegins
  have hopen := List.isPrefixOf_iff_prefix.mp (Bool.and_eq_true_iff.mp hbegins).1
  exact h (hopen.isInfix.trans (List.suffix_append a (c :: b)).isInfix)

theorem commentGroup_kept_of_free {m : Mode} {start : Bool} {t : Text}
    (h : ¬ ['(', '?', '#'] <:+: t) : commentGroup.kept (.reading m start) t [] = t := by
  refine (CommentForm.reading_of_plain fun a c b st ht _ => ?_).1
  rw [List.append_nil]
  rw [ht] at h
  exact commentGroup_begins_of_free st h

/-- A pattern in which nothing looks like a comment group holds none. -/
theorem stripCommentGroups_of_free {pattern : Text} (h : ¬ ['(', '?', '#'] <:+: pattern) :
    stripCommentGroups pattern = pattern := by
  rw [stripCommentGroups_eq]
  exact commentGroup_kept_of_free h

/-- **Line comments are skipped.** -/
theorem stripLineComments_eq (pattern : Text) :
    stripLineComments pattern = lineComment.kept (.reading .outside true) pattern [] :=
  lineComment_governs.removes _ _ _ (Walk.start_is pattern 0) (Nat.le_refl _)

end SecretScan.Pattern
