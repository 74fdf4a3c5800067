import SecretScan.Proofs.Pattern.Comment

/-!
# The text of a line comment

In free-spacing mode a line comment is thrown away, so its text should not matter. But comment
groups go first, in a pass that knows nothing of line comments: it reads their text as it reads the
pattern. A comment in which a group or a class begins and does not end changes how the lines behind
it are read. A comment that leaves neither open is thrown away whatever it says
(`stripComments_comment`).

The two passes do not see the same text in front of the comment either. A `[` in an earlier line
comment opens a class for the one and means nothing to the other. So it has to be asked of both that
they come to the comment outside any class.
-/

namespace SecretScan.Pattern

/-! ## Where a walk ends -/

namespace Walk

/-- The walk `n` characters further on, or at the end of the pattern. -/
def advance : Nat → Walk → Walk
  | 0, w => w
  | n + 1, w =>
    match w.step with
    | none => w
    | some (_, next) => advance n next

theorem Is.advance {w : Walk} {m : Mode} (h : w.Is m) :
    (Walk.advance w.rest.length w).Is (m.behind w.rest [])
      ∧ (Walk.advance w.rest.length w).rest = [] := by
  generalize hs : w.rest = s
  induction s generalizing w m with
  | nil => exact ⟨h, hs⟩
  | cons c s ih =>
      have hnext := ih (h.stepOn hs).2 (stepOn_rest hs)
      rw [Mode.behind, List.append_nil]
      simpa only [List.length_cons, Walk.advance, step_of_rest_cons hs] using hnext

theorem Is.atSyntaxEnd_iff {w : Walk} {m : Mode} (h : w.Is m) (hr : w.rest = []) :
    w.atSyntaxEnd = true ↔ m = .outside := by
  have hdone : w.done = true := by
    rw [done, decide_eq_true_eq]
    exact List.drop_eq_nil_iff.mp hr
  rw [atSyntaxEnd, hdone, h.inClass, Bool.and_true]
  cases m with
  | outside => simp [h.2, Mode.inClass]
  | escape => simp [h.2]
  | opened => simp [Mode.inClass]
  | negated => simp [Mode.inClass]
  | members => simp [Mode.inClass]
  | memberEscape => simp [Mode.inClass]
  | item left => simp [Mode.inClass]

end Walk

/-- The walk of the pattern ends outside any class and escape. -/
def EndsOutside (pattern : Text) : Prop :=
  ((Walk.start pattern 0).advance pattern.length).atSyntaxEnd = true
deriving Decidable

theorem endsOutside_iff {pattern : Text} :
    EndsOutside pattern ↔ Mode.outside.behind pattern [] = .outside := by
  obtain ⟨his, hrest⟩ := (Walk.start_is pattern 0).advance
  exact his.atSyntaxEnd_iff hrest

/-! ## Reading without looking ahead -/

namespace CommentForm

variable {k : CommentForm}

/-- From the phase `ph`, `u` is left of `t` and the phase behind it is `ph'`, whatever follows. -/
def Reads (k : CommentForm) (ph : Phase) (t u : Text) (ph' : Phase) : Prop :=
  ∀ ahead, k.kept ph t ahead = u ∧ k.behind ph t ahead = ph'

namespace Reads

theorem nil (ph : Phase) : k.Reads ph [] [] ph :=
  fun _ => ⟨rfl, rfl⟩

theorem kept_append {ph ph' : Phase} {s u : Text} (h : k.Reads ph s u ph') (t ahead : Text) :
    k.kept ph (s ++ t) ahead = u ++ k.kept ph' t ahead := by
  obtain ⟨hkept, hbehind⟩ := h (t ++ ahead)
  rw [CommentForm.kept_append, hkept, hbehind]

theorem append {ph ph' ph'' : Phase} {s t u v : Text} (h : k.Reads ph s u ph')
    (h' : k.Reads ph' t v ph'') : k.Reads ph (s ++ t) (u ++ v) ph'' := by
  intro ahead
  obtain ⟨hkept, hbehind⟩ := h' ahead
  rw [h.kept_append, behind_append, (h (t ++ ahead)).2, hkept, hbehind]
  exact ⟨rfl, rfl⟩

/-- An unfinished comment. -/
theorem skipping {u : Text} (h : k.last ∉ u) : k.Reads .skipping u [] .skipping :=
  fun ahead => skipping_of_notMem h ahead

/-- The rest of a comment, with the character that ends it. -/
theorem comment {u : Text} (h : k.last ∉ u) :
    k.Reads .skipping (u ++ [k.last]) (if k.keepsLast then [k.last] else [])
      (.reading .outside (Text.isBlank k.last)) := by
  intro ahead
  obtain ⟨hkept, hbehind⟩ := skipping_of_last h [] ahead
  rw [hkept, hbehind]
  exact ⟨List.append_nil _, rfl⟩

end Reads

end CommentForm

/-! ## Line comments -/

/-- Whether a word may begin behind `t`. -/
def startsBehind (start : Bool) (t : Text) : Bool :=
  (t.getLast?.map Text.isBlank).getD start

theorem CommentForm.start_behind {k : CommentForm} {m m' : Mode} {start start' : Bool}
    {t ahead : Text} (h : k.behind (.reading m start) t ahead = .reading m' start') :
    start' = startsBehind start t := by
  rcases List.eq_nil_or_concat t with rfl | ⟨s, c, rfl⟩
  · exact (Phase.reading.inj h).2.symm
  rw [List.concat_eq_append, behind_append] at h
  change (k.step _ c ahead).2 = _ at h
  rw [startsBehind, List.concat_eq_append, List.getLast?_concat]
  revert h
  generalize k.behind _ s _ = ph
  intro h
  cases ph with
  | reading m start =>
      rw [step] at h
      split at h
      · cases h
      · exact (Phase.reading.inj h).2.symm
  | skipping =>
      rw [step] at h
      split at h
      · exact (Phase.reading.inj h).2.symm
      · cases h

theorem lineComment_begins {start : Bool} {c : Char} (h : lineComment.begins start [c] = true) :
    lineComment.Reads (.reading .outside start) [c] [] .skipping :=
  fun _ => CommentForm.begins_cons h

theorem lineComment_reads {start : Bool} {c : Char} (hc : IsPlain c)
    (h : lineComment.begins start [c] = false) :
    lineComment.Reads (.reading .outside start) [c] [c] (.reading .outside (Text.isBlank c)) := by
  intro ahead
  have hnone : Mode.outside = .outside → lineComment.begins start (c :: ([] ++ ahead)) = false :=
    fun _ => h
  obtain ⟨hkept, hbehind⟩ := CommentForm.reads_cons hnone
  rw [hkept, hbehind, Mode.read_plain hc]
  exact ⟨rfl, rfl⟩

/-- In classes and escapes no line comment begins. -/
theorem lineComment_covered {t ahead : Text} (h : Covered (marks .outside t ahead))
    (start : Bool) : lineComment.kept (.reading .outside start) t ahead = t
      ∧ ∃ start', lineComment.behind (.reading .outside start) t ahead
        = .reading (Mode.outside.behind t ahead) start' := by
  refine CommentForm.reading_of_plain fun a c b st ht hm => ?_
  have hc : c ≠ '#' := by
    rintro rfl
    exact not_plain_of_covered h ht hm (by decide)
  simp [lineComment, hc]

theorem lineComment_sealed {t : Text} (h : Covered (marks .outside t []))
    (hout : Mode.outside.behind t [] = .outside) (start : Bool) :
    lineComment.Reads (.reading .outside start) t t (.reading .outside (startsBehind start t)) := by
  intro ahead
  obtain ⟨hbehind, hmarks⟩ := behind_congr hout ahead
  rw [← hmarks] at h
  obtain ⟨hkept, start', hphase⟩ := lineComment_covered h start
  rw [hphase, hbehind, CommentForm.start_behind hphase]
  exact ⟨hkept, rfl⟩

/-- In a comment, or in the pattern outside any class and escape. -/
def Phase.AtSyntax : Phase → Prop
  | .reading m _ => m = .outside
  | .skipping => True

/-- Where what is left of `t` ends outside any class, so does the pass, or in a comment, whatever
follows. -/
def Settles (start : Bool) (t : Text) : Prop :=
  Mode.outside.behind (lineComment.kept (.reading .outside start) t []) [] = .outside →
    ∃ u ph, lineComment.Reads (.reading .outside start) t u ph ∧ ph.AtSyntax

theorem Settles.append {start start' : Bool} {s t u : Text}
    (h : lineComment.Reads (.reading .outside start) s u (.reading .outside start'))
    (hu : ∀ ahead, Mode.outside.behind u ahead = .outside) (ht : Settles start' t) :
    Settles start (s ++ t) := by
  intro hout
  rw [h.kept_append, Mode.behind_append, hu] at hout
  obtain ⟨v, ph, hreads, hsyntax⟩ := ht hout
  exact ⟨u ++ v, ph, h.append hreads, hsyntax⟩

theorem settles (t : Text) : ∀ start, Settles start t := by
  induction t using pieceInduction with
  | nil => exact fun start _ => ⟨[], _, .nil _, rfl⟩
  | plain c s hc ih =>
      intro start
      cases hbegins : lineComment.begins start [c] with
      | true =>
          have hopen := lineComment_begins hbegins
          -- the comment ends with its line, or it is the last thing in the text
          by_cases hnewline : '\n' ∈ s
          · obtain ⟨u, v, rfl, hu⟩ := List.eq_append_cons_of_mem hnewline
            have hcomment := hopen.append (CommentForm.Reads.comment (k := lineComment) hu)
            have hv : Settles true v := ih v (by rw [List.length_append, List.length_cons]; omega) _
            have hsplit : c :: (u ++ '\n' :: v) = ([c] ++ (u ++ ['\n'])) ++ v := by simp
            rw [hsplit]
            exact Settles.append hcomment (fun _ => rfl) hv
          · have hskip := hopen.append (CommentForm.Reads.skipping (k := lineComment) hnewline)
            exact fun _ => ⟨_, _, hskip, trivial⟩
      | false =>
          refine Settles.append (s := [c]) (lineComment_reads hc hbegins) (fun ahead => ?_)
            (ih s (Nat.le_refl _) _)
          rw [Mode.behind, Mode.read_plain hc]
          rfl
  | sealed p s hp ih =>
      intro start
      have hreads := lineComment_sealed hp.covered hp.behind start
      exact Settles.append hreads (fun ahead => (hp.behind_ahead ahead).1) (ih _)
  | hanging p hp =>
      -- no comment begins in it, so all of it stays and it is this text that ends outside
      intro start hout
      rw [(lineComment_covered hp start).1] at hout
      exact ⟨p, _, lineComment_sealed hp hout start, rfl⟩

/-- A line comment behind `p` is thrown away, its newline is not. -/
theorem stripLineComments_comment {p c : Text} (hshown : EndsOutside (stripLineComments p))
    (hlast : ∀ d, p.getLast? = some d → Text.isBlank d = true) (hc : '\n' ∉ c) (s : Text) :
    stripLineComments (p ++ '#' :: (c ++ '\n' :: s))
      = stripLineComments p ++ '\n' :: stripLineComments s := by
  rw [stripLineComments_eq] at hshown
  obtain ⟨u, ph, hreads, hsyntax⟩ := settles p true (endsOutside_iff.mp hshown)
  have hstart : startsBehind true p = true := by
    rw [startsBehind]
    cases hp : p.getLast? with
    | none => rfl
    | some d => exact hlast d hp
  -- behind `p` the comment begins, or an earlier one goes on
  have hcomment : lineComment.Reads ph ('#' :: (c ++ ['\n'])) ['\n'] (.reading .outside true) := by
    have hskip := CommentForm.Reads.comment (k := lineComment) hc
    have hsharp : '\n' ∉ '#' :: c := by simp [hc]
    cases ph with
    | reading m start =>
        obtain rfl : m = .outside := hsyntax
        obtain rfl := CommentForm.start_behind (hreads []).2
        rw [hstart]
        exact (lineComment_begins rfl).append hskip
    | skipping => exact @CommentForm.Reads.comment lineComment ('#' :: c) hsharp
  have hsplit : p ++ '#' :: (c ++ '\n' :: s) = (p ++ '#' :: (c ++ ['\n'])) ++ s := by simp
  rw [stripLineComments_eq, stripLineComments_eq, stripLineComments_eq, hsplit,
    (hreads.append hcomment).kept_append, (hreads []).1, List.append_assoc]
  rfl

/-! ## Comment groups in the text of a line comment -/

/-- Neither in a comment nor in a class. -/
def Phase.isFree : Phase → Bool
  | .reading m _ => !m.inClass
  | .skipping => false

/-- The text `c` of a line comment in front of the lines `s` keeps to itself: there is no comment
group in either, or no group and no class that begins in `c` goes on in `s`. -/
def KeepsToItself (c s : Text) : Prop :=
  ¬ ['(', '?', '#'] <:+: c ++ '\n' :: s
    ∨ (commentGroup.behind (.reading .outside false) c ('\n' :: s)).isFree = true
deriving Decidable

/-- For a comment group it does not matter whether a word may begin. -/
theorem commentGroup_start (m : Mode) (start start' : Bool) (t : Text) :
    commentGroup.kept (.reading m start) t [] = commentGroup.kept (.reading m start') t [] := by
  cases t with
  | nil => rfl
  | cons c t => rfl

/-- Of a line comment that keeps to itself some text is left, and the lines behind it lose the same
groups as without it. -/
theorem commentGroup_comment {c s : Text} (h : KeepsToItself c s) :
    ∃ c', c'.Sublist c ∧ commentGroup.kept (.reading .outside false) (c ++ '\n' :: s) []
      = c' ++ '\n' :: stripCommentGroups s := by
  rcases h with h | h
  · refine ⟨c, .refl c, ?_⟩
    have hs : ¬ ['(', '?', '#'] <:+: s := by
      intro hin
      have hsuffix : s <:+ c ++ '\n' :: s := ⟨c ++ ['\n'], by simp⟩
      exact h (hin.trans hsuffix.isInfix)
    rw [commentGroup_kept_of_free h, stripCommentGroups_of_free hs]
  · refine ⟨_, commentGroup.kept_sublist (.reading .outside false) c ('\n' :: s), ?_⟩
    rw [CommentForm.kept_append, List.append_nil]
    revert h
    generalize commentGroup.behind _ c _ = ph
    intro h
    cases ph with
    | skipping => cases h
    | reading m start =>
        have hm : m.inClass = false := by simpa [Phase.isFree] using h
        -- behind its newline the pass goes on as at the beginning of a pattern
        rw [(CommentForm.reads_cons fun _ => rfl).1, Mode.read_newline hm,
          commentGroup_start .outside _ true, stripCommentGroups_eq]

/-- No comment group begins in `p`, nor with the `#` behind it. -/
theorem stripCommentGroups_comment {p c s : Text} (hfree : ¬ ['(', '?', '#'] <:+: p)
    (hout : EndsOutside p) (hlast : ∀ d, p.getLast? = some d → Text.isBlank d = true)
    (h : KeepsToItself c s) :
    ∃ c', c'.Sublist c ∧ stripCommentGroups (p ++ '#' :: (c ++ '\n' :: s))
      = p ++ '#' :: (c' ++ '\n' :: stripCommentGroups s) := by
  obtain ⟨c', hsub, hkept⟩ := commentGroup_comment h
  refine ⟨c', hsub, ?_⟩
  have hnone : ∀ a d b start, p = a ++ d :: b →
      Mode.outside.behind a (d :: b ++ '#' :: (c ++ '\n' :: s)) = .outside →
        commentGroup.begins start (d :: (b ++ '#' :: (c ++ '\n' :: s))) = false := by
    intro a d b start hp _
    rw [Bool.eq_false_iff]
    intro hbegins
    have hopen := List.isPrefixOf_iff_prefix.mp (Bool.and_eq_true_iff.mp hbegins).1
    -- an opener stands in `p`, or `p` ends with its first part and so not with a blank
    rcases b with _ | ⟨e, _ | ⟨f, b⟩⟩
    · obtain rfl := (List.cons_prefix_cons.mp hopen).1
      exact absurd (hlast '(' (by rw [hp, List.getLast?_concat])) (by decide)
    · obtain rfl := (List.cons_prefix_cons.mp (List.cons_prefix_cons.mp hopen).2).1
      exact absurd (hlast '?' (by rw [hp]; simp)) (by decide)
    · have htail := (List.cons_prefix_cons.mp (List.cons_prefix_cons.mp hopen).2).2
      obtain rfl := (List.cons_prefix_cons.mp hopen).1
      obtain rfl := (List.cons_prefix_cons.mp (List.cons_prefix_cons.mp hopen).2).1
      obtain rfl := (List.cons_prefix_cons.mp htail).1
      exact hfree ⟨a, b, by rw [hp]; simp⟩
  obtain ⟨hp, start, hphase⟩ := @CommentForm.reading_of_plain commentGroup .outside true p _ hnone
  rw [(behind_congr (endsOutside_iff.mp hout) _).1] at hphase
  rw [stripCommentGroups_eq, CommentForm.kept_append, List.append_nil, hp, hphase,
    (CommentForm.reads_cons fun _ => rfl).1, List.append_nil]
  exact congrArg (p ++ '#' :: ·) hkept

/-! ## Both passes -/

/--
**A line comment that keeps to itself is thrown away.**

The pattern goes on as if the comment had not been written.
-/
theorem stripComments_comment {p c s : Text} (hfree : ¬ ['(', '?', '#'] <:+: p)
    (hout : EndsOutside p) (hshown : EndsOutside (stripComments p true))
    (hlast : ∀ d, p.getLast? = some d → Text.isBlank d = true) (hc : '\n' ∉ c)
    (h : KeepsToItself c s) :
    stripComments (p ++ '#' :: (c ++ '\n' :: s)) true
      = stripComments p true ++ '\n' :: stripComments s true := by
  have hp : stripComments p true = stripLineComments p := by
    rw [stripComments, stripCommentGroups_of_free hfree]
    rfl
  rw [hp] at hshown ⊢
  obtain ⟨c', hsub, hgroups⟩ := stripCommentGroups_comment hfree hout hlast h
  have hc' : '\n' ∉ c' := fun hmem => hc (hsub.subset hmem)
  rw [stripComments, hgroups]
  exact stripLineComments_comment hshown hlast hc' _

/--
**The text of a line comment has no influence if it keeps to itself.**

Both passes have to come to the comment outside any class: the one that reads earlier line comments
as it reads the pattern, and the one that does not.
-/
theorem stripComments_ignores_text {p c₁ c₂ s : Text} (hfree : ¬ ['(', '?', '#'] <:+: p)
    (hout : EndsOutside p) (hshown : EndsOutside (stripComments p true))
    (hlast : ∀ d, p.getLast? = some d → Text.isBlank d = true)
    (hc₁ : '\n' ∉ c₁) (hc₂ : '\n' ∉ c₂) (h₁ : KeepsToItself c₁ s) (h₂ : KeepsToItself c₂ s) :
    stripComments (p ++ '#' :: (c₁ ++ '\n' :: s)) true
      = stripComments (p ++ '#' :: (c₂ ++ '\n' :: s)) true := by
  have hfirst := stripComments_comment hfree hout hshown hlast hc₁ h₁
  have hsecond := stripComments_comment hfree hout hshown hlast hc₂ h₂
  exact hfirst.trans hsecond.symm

/-- A class and a group that end within the comment are thrown away with it. -/
theorem stripComments_ignores_text_closed :
    stripComments ("(?x)a # note\n ".toList ++ '#' :: ("see [0-9] (?#b)".toList
        ++ '\n' :: "(?#c)d".toList)) true
      = stripComments ("(?x)a # note\n ".toList ++ '#' :: ("".toList
        ++ '\n' :: "(?#c)d".toList)) true := by
  have hlast : ∀ d, "(?x)a # note\n ".toList.getLast? = some d → Text.isBlank d = true := by
    intro d hd
    obtain rfl : ' ' = d := Option.some.inj hd
    rfl
  exact stripComments_ignores_text (by decide +kernel) (by decide +kernel) (by decide +kernel) hlast
    (by decide +kernel) (by decide +kernel) (by decide +kernel) (by decide +kernel)

/--
**A comment that does not keep to itself changes the pattern.**

In the first pair the comment text begins a group, which swallows the end of the line and what
follows. In the second one an earlier comment holds a `[`. Seen without that comment, the pattern is
in a class where the `#` stands, and its text is no comment.
-/
theorem stripComments_ignores_text_open :
    (EndsOutside []
        ∧ stripComments ([] ++ '#' :: ("(?#".toList ++ '\n' :: "a)b".toList)) true
          ≠ stripComments ([] ++ '#' :: ("".toList ++ '\n' :: "a)b".toList)) true)
      ∧ EndsOutside "#[\n[] ".toList
        ∧ ¬ ['(', '?', '#'] <:+: "#[\n[] ".toList
        ∧ stripComments ("#[\n[] ".toList ++ '#' :: ("x".toList ++ '\n' :: [])) true
          ≠ stripComments ("#[\n[] ".toList ++ '#' :: ("y".toList ++ '\n' :: [])) true := by
  decide +kernel

end SecretScan.Pattern
