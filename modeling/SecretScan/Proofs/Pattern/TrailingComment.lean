import SecretScan.Proofs.Pattern.Comment
import SecretScan.Proofs.Pattern.Conversion
import SecretScan.Proofs.Text.Line

/-!
# Trailing comments

Outside free-spacing mode a comment is recognised at the end of a line only, and each line is walked
on its own. Where the line begins outside any class, its own walk and that of the whole pattern
agree, and all that is removed is syntax. But a class may go over the end of a line. Then the line
is walked as if it began outside, and members of the class may be taken for a comment: they are
removed from the pattern (`stripComments_removes_members`). `stripComments_removes` says what holds
for all patterns.
-/

namespace SecretScan.Pattern

/-! ## Where a trailing comment begins -/

/-- What a trailing comment may hold: words and blanks. -/
def isCommentChar (c : Char) : Bool :=
  Text.isBlank c || Text.isWordChar c

/-- `TrailingAt m s a`: in `s`, read from the mode `m`, a trailing comment begins behind `a`. There
stand a blank and a `#` as syntax, and then only words and blanks. -/
def TrailingAt (m : Mode) (s a : Text) : Prop :=
  ∃ d b, s = a ++ d :: '#' :: b ∧ m.behind a (d :: '#' :: b) = .outside ∧ Text.isBlank d = true
    ∧ ∀ c ∈ b, isCommentChar c = true

theorem isPlain_of_isBlank {c : Char} (h : Text.isBlank c = true) : IsPlain c :=
  (isInert_of_class h (by decide)).1

/-- All of a trailing comment is plain. -/
theorem isPlain_of_trailing {d : Char} {b : Text} (hd : Text.isBlank d = true)
    (hb : ∀ c ∈ b, isCommentChar c = true) : ∀ c ∈ d :: '#' :: b, IsPlain c := by
  intro c hc
  rcases List.mem_cons.mp hc with rfl | hc
  · exact isPlain_of_isBlank hd
  rcases List.mem_cons.mp hc with rfl | hc
  · decide
  · exact (isInert_of_class (hb c hc) (by decide)).1

theorem trailingAt_cons {m : Mode} {c : Char} {s a : Text} :
    TrailingAt m (c :: s) (c :: a) ↔ TrailingAt (m.read c s).2 s a := by
  constructor
  · rintro ⟨d, b, hs, hm, hd, hb⟩
    obtain rfl := (List.cons.inj hs).2
    exact ⟨d, b, rfl, hm, hd, hb⟩
  · rintro ⟨d, b, rfl, hm, hd, hb⟩
    exact ⟨d, b, rfl, hm, hd, hb⟩

theorem trailingAt_nil {m : Mode} {c e : Char} {s : Text} :
    TrailingAt m (c :: e :: s) [] ↔
      m = .outside ∧ Text.isBlank c = true ∧ e = '#' ∧ ∀ d ∈ s, isCommentChar d = true := by
  constructor
  · rintro ⟨d, b, hs, hm, hd, hb⟩
    cases hs
    exact ⟨hm, hd, rfl, hb⟩
  · rintro ⟨hm, hc, rfl, hs⟩
    exact ⟨c, s, rfl, hm, hc, hs⟩

/-- A trailing comment takes at least two characters. -/
theorem not_trailingAt_singleton {m : Mode} {c : Char} {a : Text} : ¬ TrailingAt m [c] a := by
  rintro ⟨d, b, hs, -⟩
  have hlen := congrArg List.length hs
  simp only [List.length_append, List.length_cons, List.length_nil] at hlen
  omega

/-- The search tests two neighbouring tokens and what follows them. -/
theorem trailingComment?_cons {line : Text} {m : Mode} {i : Nat} {c e : Char} {s : Text}
    (hline : line.drop i = c :: e :: s) (rest : List Token) :
    (TrailingAt m (c :: e :: s) [] → trailingComment? line (tokenIn m i c (e :: s))
        (tokenIn (m.read c (e :: s)).2 (i + 1) e s :: rest) = some i)
      ∧ (¬ TrailingAt m (c :: e :: s) [] → trailingComment? line (tokenIn m i c (e :: s))
        (tokenIn (m.read c (e :: s)).2 (i + 1) e s :: rest)
          = trailingComment? line (tokenIn (m.read c (e :: s)).2 (i + 1) e s) rest) := by
  have hdrop : line.drop (i + 1 + 1) = s := by
    rw [Nat.add_assoc, ← List.drop_drop, hline]
    rfl
  have htest : ((tokenIn (m.read c (e :: s)).2 (i + 1) e s).isSyntax '#'
      && (tokenIn m i c (e :: s)).kind = .char && Text.isBlank c
      && onlyWordsFrom line (i + 1 + 1)) = true ↔ TrailingAt m (c :: e :: s) [] := by
    have hkind : (tokenIn m i c (e :: s)).kind = .char ↔ m = .outside ∧ IsPlain c :=
      Mode.read_eq_char_iff
    simp only [Bool.and_eq_true, decide_eq_true_eq, isSyntax_tokenIn, hkind, onlyWordsFrom, hdrop,
      List.all_eq_true, trailingAt_nil]
    constructor
    · rintro ⟨⟨⟨⟨-, -, he⟩, hm, -⟩, hc⟩, hs⟩
      exact ⟨hm, hc, he, hs⟩
    · rintro ⟨rfl, hc, rfl, hs⟩
      have hplain := isPlain_of_isBlank hc
      rw [Mode.read_plain hplain]
      exact ⟨⟨⟨⟨rfl, by decide, rfl⟩, rfl, hplain⟩, hc⟩, hs⟩
  exact ⟨fun h => if_pos (htest.mpr h), fun h => if_neg (mt htest.mp h)⟩

/-- What the search finds is a trailing comment, and there is none where it finds nothing. -/
theorem trailingComment?_cases {line s : Text} :
    ∀ {m : Mode} {i : Nat} {c : Char}, line.drop i = c :: s →
      ((∃ a, TrailingAt m (c :: s) a
          ∧ trailingComment? line (tokenIn m i c s) (tokensFrom (i + 1) (m.read c s).2 s [])
            = some (i + a.length))
        ∨ (∀ a, ¬ TrailingAt m (c :: s) a)
          ∧ trailingComment? line (tokenIn m i c s) (tokensFrom (i + 1) (m.read c s).2 s [])
            = none) := by
  induction s with
  | nil =>
      intro m i c _
      exact .inr ⟨fun a => not_trailingAt_singleton, rfl⟩
  | cons e s ih =>
      intro m i c hline
      obtain ⟨hfound, hnext⟩ := trailingComment?_cons (m := m) hline
        (tokensFrom (i + 1 + 1) ((m.read c (e :: s)).2.read e s).2 s [])
      rw [tokensFrom, List.append_nil]
      by_cases hhere : TrailingAt m (c :: e :: s) []
      · exact .inl ⟨[], hhere, hfound hhere⟩
      -- no comment begins here, so the search goes on behind this character
      rw [hnext hhere]
      have hdrop : line.drop (i + 1) = e :: s := by
        rw [← List.drop_drop, hline]
        rfl
      rcases @ih (m.read c (e :: s)).2 (i + 1) e hdrop with ⟨a, ha, hcut⟩ | ⟨hnone, hcut⟩
      · refine .inl ⟨c :: a, trailingAt_cons.mpr ha, ?_⟩
        rw [hcut, List.length_cons]
        congr 1
        omega
      · refine .inr ⟨fun a ha => ?_, hcut⟩
        cases a with
        | nil => exact hhere ha
        | cons d a =>
            obtain ⟨x, b, hs, hrest⟩ := ha
            obtain ⟨rfl, hs'⟩ := List.cons.inj hs
            exact hnone a (trailingAt_cons.mp ⟨x, b, hs, hrest⟩)

/-- **A line loses its first trailing comment**, and without one it stays as it is. -/
theorem stripTrailingComment_cases (line : Text) :
    (∃ a, TrailingAt .outside line a ∧ stripTrailingComment line = a)
      ∨ (∀ a, ¬ TrailingAt .outside line a) ∧ stripTrailingComment line = line := by
  cases line with
  | nil =>
      refine .inr ⟨?_, rfl⟩
      rintro a ⟨d, b, hs, -⟩
      simp at hs
  | cons c s =>
      have htokens : tokens (c :: s) = tokenIn .outside 0 c s
          :: tokensFrom 1 (Mode.outside.read c s).2 s [] := by
        rw [tokens_eq, tokensFrom, List.append_nil]
      rw [stripTrailingComment, htokens]
      dsimp only
      rcases @trailingComment?_cases (c :: s) s .outside 0 c rfl with ⟨a, ha, hcut⟩ | ⟨hnone, hcut⟩
      · refine .inl ⟨a, ha, ?_⟩
        obtain ⟨d, b, hs, -⟩ := ha
        rw [hcut, hs, Nat.zero_add]
        exact List.take_left
      · exact .inr ⟨hnone, by rw [hcut]⟩

/-- What is removed from a line is plain, and it begins outside any class and escape. -/
theorem exists_removed (line : Text) :
    ∃ gone, line = stripTrailingComment line ++ gone ∧ (∀ c ∈ gone, IsPlain c)
      ∧ (gone ≠ [] → Mode.outside.behind (stripTrailingComment line) gone = .outside) := by
  rcases stripTrailingComment_cases line with ⟨a, ⟨d, b, hline, hm, hd, hb⟩, hcut⟩ | ⟨-, hcut⟩
  · rw [hcut]
    exact ⟨d :: '#' :: b, hline, isPlain_of_trailing hd hb, fun _ => hm⟩
  · rw [hcut]
    exact ⟨[], (List.append_nil line).symm, nofun, fun h => absurd rfl h⟩

/-! ## What is removed from a pattern -/

/-- The offsets of what is removed from lines, the first of which begins at offset `pos`. -/
def removedFrom : Nat → List Text → List Nat
  | _, [] => []
  | pos, line :: lines =>
    List.range' (pos + (stripTrailingComment line).length)
        (line.length - (stripTrailingComment line).length)
      ++ removedFrom (pos + line.length + 1) lines

/-- The offsets of the characters of a pattern that are removed as trailing comments. -/
def removedOffsets (pattern : Text) : List Nat :=
  removedFrom 0 (Text.splitOn '\n' pattern)

/-- An offset that is removed lies in the removed part of some line. -/
theorem mem_removedFrom {pos i : Nat} {lines : List Text} (h : i ∈ removedFrom pos lines) :
    ∃ before line after, lines = before ++ line :: after
      ∧ pos + (Text.linesBefore before).length + (stripTrailingComment line).length ≤ i
      ∧ i < pos + (Text.linesBefore before).length + line.length := by
  induction lines generalizing pos with
  | nil => cases h
  | cons l lines ih =>
      rcases List.mem_append.mp h with h | h
      · refine ⟨[], l, lines, rfl, ?_⟩
        rw [List.mem_range'_1] at h
        simp only [Text.linesBefore, List.flatMap_nil, List.length_nil]
        omega
      · obtain ⟨before, line, after, rfl, hle, hlt⟩ := ih h
        refine ⟨l :: before, line, after, rfl, ?_⟩
        simp only [Text.linesBefore, List.flatMap_cons, List.length_append, List.length_singleton]
          at hle hlt ⊢
        omega

theorem le_of_mem_removedFrom {pos i : Nat} {lines : List Text} (h : i ∈ removedFrom pos lines) :
    pos ≤ i := by
  obtain ⟨before, line, after, -, hle, -⟩ := mem_removedFrom h
  omega

/-- Of the characters of a line those stay that do not belong to its trailing comment. -/
theorem filter_line (pos : Nat) (m : Mode) (line ahead : Text) {later : List Nat}
    (hlater : ∀ i ∈ later, pos + line.length ≤ i) :
    ((tokensFrom pos m line ahead).filter (·.index ∉
        List.range' (pos + (stripTrailingComment line).length)
          (line.length - (stripTrailingComment line).length) ++ later)).map Token.char
      = stripTrailingComment line := by
  obtain ⟨gone, hline, -, -⟩ := exists_removed line
  generalize hkept : stripTrailingComment line = kept at hline ⊢
  subst hline
  have hlen : (kept ++ gone).length = kept.length + gone.length := List.length_append
  -- the offsets of what is kept lie before the range, and those of what goes lie in it
  rw [tokensFrom_append, List.filter_append, List.map_append]
  have hstay : (tokensFrom pos m kept (gone ++ ahead)).filter (fun t =>
      t.index ∉ List.range' (pos + kept.length) ((kept ++ gone).length - kept.length) ++ later)
        = tokensFrom pos m kept (gone ++ ahead) := by
    rw [List.filter_eq_self]
    intro t ht
    have hindex := index_of_mem_tokensFrom ht
    rw [decide_eq_true_eq, List.mem_append, not_or, List.mem_range'_1]
    refine ⟨by omega, fun h => ?_⟩
    have := hlater _ h
    omega
  have hgo : (tokensFrom (pos + kept.length) (m.behind kept (gone ++ ahead)) gone ahead).filter
      (fun t => t.index ∉ List.range' (pos + kept.length) ((kept ++ gone).length - kept.length)
        ++ later) = [] := by
    rw [List.filter_eq_nil_iff]
    intro t ht
    have hindex := index_of_mem_tokensFrom ht
    rw [decide_eq_true_eq, not_not, List.mem_append, List.mem_range'_1]
    left
    omega
  rw [hstay, hgo, tokensFrom_map_char, List.map_nil, List.append_nil]

/-- Offsets in front of a text say nothing about it. -/
theorem filter_behind {pos : Nat} (m : Mode) (s ahead : Text) {earlier : List Nat}
    (h : ∀ i ∈ earlier, i < pos) (later : List Nat) :
    (tokensFrom pos m s ahead).filter (·.index ∉ earlier ++ later)
      = (tokensFrom pos m s ahead).filter (·.index ∉ later) := by
  refine List.filter_congr fun t ht => ?_
  have hindex := (index_of_mem_tokensFrom ht).1
  have hnot : t.index ∉ earlier := fun hmem => absurd (h _ hmem) (by omega)
  rw [decide_eq_decide, List.mem_append, or_iff_right hnot]

/-- **What is left of lines are the characters that are not removed.** -/
theorem filter_removedFrom (pos : Nat) (m : Mode) (lines : List Text) :
    ((tokensFrom pos m (Text.join '\n' lines) []).filter (·.index ∉ removedFrom pos lines)).map
        Token.char
      = Text.join '\n' (lines.map stripTrailingComment) := by
  induction lines generalizing pos m with
  | nil => rfl
  | cons line lines ih =>
      have hlater : ∀ i ∈ removedFrom (pos + line.length + 1) lines, pos + line.length ≤ i := by
        intro i hi
        have := le_of_mem_removedFrom hi
        omega
      rw [Text.join_cons, tokensFrom_append, List.filter_append, List.map_append, List.map_cons,
        Text.join_cons, removedFrom, filter_line pos m line _ hlater]
      congr 1
      cases lines with
      | nil => rfl
      | cons l lines =>
          obtain ⟨gone, hline, -, -⟩ := exists_removed line
          have hlen : line.length = (stripTrailingComment line).length + gone.length := by
            rw [← List.length_append, ← hline]
          have hearlier : ∀ i ∈ List.range' (pos + (stripTrailingComment line).length)
              (line.length - (stripTrailingComment line).length), i < pos + line.length := by
            intro i hi
            rw [List.mem_range'_1] at hi
            omega
          -- the newline is not removed, since what is removed comes before it or behind it
          have hnewline : pos + line.length ∉ removedFrom (pos + line.length + 1) (l :: lines) := by
            intro h
            have := le_of_mem_removedFrom h
            omega
          rw [filter_behind _ _ _ hearlier, Text.linesAfter, tokensFrom,
            List.filter_cons_of_pos (by exact decide_eq_true hnewline), List.map_cons, ih]
          rfl

/-! ## A class may go over the end of a line -/

theorem behind_linesAfter (m : Mode) (s t : Text) (lines : List Text) :
    m.behind s (t ++ Text.linesAfter lines) = m.behind s t := by
  cases lines with
  | nil => rw [Text.linesAfter, List.append_nil]
  | cons l lines => exact behind_line m s t _

theorem marks_linesAfter (m : Mode) (s : Text) (lines : List Text) :
    marks m s (Text.linesAfter lines) = marks m s [] := by
  cases lines with
  | nil => rfl
  | cons l lines => exact marks_line m s [] _

/-- The line in which offset `i` lies begins in a class: the newline in front of it stands in
one. -/
def BeginsInClass (pattern : Text) (i : Nat) : Prop :=
  ∃ n ∈ tokens pattern, n.char = '\n' ∧ n.inClass = true ∧ n.index < i
    ∧ ∀ n' ∈ tokens pattern, n.index < n'.index → n'.index < i → n'.char ≠ '\n'

/-- A line begins outside, or a newline in a class stands in front of it. -/
theorem line_begins (before : List Text) (s : Text) :
    Mode.outside.behind (Text.linesBefore before) s = .outside
      ∨ ∃ x, Text.linesBefore before = x ++ ['\n']
        ∧ (Mode.outside.behind x ('\n' :: s)).inClass = true := by
  rcases List.eq_nil_or_concat before with rfl | ⟨before, l, rfl⟩
  · exact .inl rfl
  have hlines : Text.linesBefore (before.concat l) = (Text.linesBefore before ++ l) ++ ['\n'] := by
    simp [Text.linesBefore]
  rw [hlines, Mode.behind_append]
  cases hin : (Mode.outside.behind (Text.linesBefore before ++ l) ('\n' :: s)).inClass with
  | false => exact .inl (Mode.read_newline hin s)
  | true => exact .inr ⟨_, rfl, hin⟩

/-- What is removed from a line is syntax in the walk of the line. -/
theorem syntax_of_removed {line u v : Text} {c : Char} (h : line = u ++ c :: v)
    (hle : (stripTrailingComment line).length ≤ u.length) :
    Mode.outside.behind u (c :: v) = .outside ∧ IsPlain c := by
  obtain ⟨gone, hline, hplain, hout⟩ := exists_removed line
  generalize stripTrailingComment line = kept at hline hle hout
  have hsplit : u ++ c :: v = kept ++ (gone ++ []) := by
    rw [← h, hline, List.append_nil]
  have hlen := congrArg List.length hsplit
  simp only [List.length_append, List.length_cons, List.length_nil] at hlen
  obtain ⟨u', v', rfl, rfl, rfl⟩ := Text.exists_middle hsplit hle (by omega)
  refine ⟨?_, hplain c (by simp)⟩
  have hkept := hout (by simp)
  rw [List.append_nil, Mode.behind_append, hkept]
  exact behind_of_plain (fun d hd => hplain d (List.mem_append_left _ hd)) _

/-- In a line that begins outside, the walk of the pattern is the walk of the line. -/
theorem behind_in_line {before after : List Text} {u v : Text}
    (h : Mode.outside.behind (Text.linesBefore before) (u ++ (v ++ Text.linesAfter after))
      = .outside) :
    Mode.outside.behind (Text.linesBefore before ++ u) (v ++ Text.linesAfter after)
      = Mode.outside.behind u v := by
  rw [Mode.behind_append, h, behind_linesAfter]

/-- Up to the next newline, the line behind a newline in a class begins in a class. -/
theorem beginsInClass_of_newline {x u w : Text} (hu : '\n' ∉ u)
    (hin : (Mode.outside.behind x ('\n' :: (u ++ w))).inClass = true) :
    BeginsInClass (x ++ ['\n'] ++ u ++ w) (x ++ ['\n'] ++ u).length := by
  have hlen : (x ++ ['\n']).length = x.length + 1 := List.length_append
  have hpattern : x ++ ['\n'] ++ u ++ w = x ++ '\n' :: (u ++ w) := by simp
  rw [List.length_append, hlen]
  refine ⟨_, mem_tokens_iff.mpr ⟨x, '\n', u ++ w, hpattern, rfl⟩, rfl, hin, ?_, ?_⟩
  · show x.length < _
    omega
  · intro n hn hafter hbefore
    obtain ⟨a, c, b, hp, rfl⟩ := mem_tokens_iff.mp hn
    change x.length < a.length at hafter
    change a.length < _ at hbefore
    rw [List.append_assoc (x ++ ['\n'])] at hp
    obtain ⟨u', v', rfl, -, -⟩ := Text.exists_middle hp.symm (by omega) (by omega)
    rintro rfl
    exact hu (by simp)

/-- **What is removed is syntax, or it stands in a line that begins in a class.** -/
theorem kind_of_removed {pattern : Text} {t : Token} (ht : t ∈ tokens pattern)
    (hi : t.index ∈ removedOffsets pattern) :
    t.kind = .char ∨ BeginsInClass pattern t.index := by
  obtain ⟨a, c, b, rfl, rfl⟩ := mem_tokens_iff.mp ht
  obtain ⟨before, line, after, hlines, hle, hlt⟩ := mem_removedFrom hi
  rw [Nat.zero_add] at hle hlt
  change _ ≤ a.length at hle
  change a.length < _ at hlt
  have hjoin : a ++ c :: b = Text.linesBefore before ++ (line ++ Text.linesAfter after) := by
    rw [← Text.join_append_cons, ← hlines, Text.join_splitOn]
  have hnewline : '\n' ∉ line := by
    refine @Text.notMem_of_mem_splitOn '\n' (a ++ c :: b) _ ?_
    rw [hlines]
    exact List.mem_append_right before List.mem_cons_self
  obtain ⟨u, v, rfl, rfl, rfl⟩ := Text.exists_middle hjoin (by omega) hlt
  -- the two walks agree in this line, or they part because it begins in a class
  rcases line_begins before (u ++ c :: v ++ Text.linesAfter after) with hbegin | ⟨x, hx, hin⟩
  · left
    rw [List.length_append] at hle
    obtain ⟨hline, hplain⟩ := @syntax_of_removed _ u v c rfl (by omega)
    rw [List.append_assoc] at hbegin
    exact Mode.read_eq_char_iff.mpr ⟨(behind_in_line hbegin).trans hline, hplain⟩
  · right
    rw [hx]
    have hu : '\n' ∉ u := fun h => hnewline (List.mem_append_left _ h)
    rw [List.append_assoc] at hin
    exact beginsInClass_of_newline hu hin

/-! ## What stays of classes and escapes -/

/-- A comment behind which the walk stands outside takes nothing but syntax away. -/
theorem protected_line {m : Mode} {kept gone : Text} (hplain : ∀ c ∈ gone, IsPlain c)
    (hout : gone ≠ [] → m.behind kept gone = .outside) :
    m.behind kept [] = m.behind (kept ++ gone) []
      ∧ (marks m kept []).filter (·.2 ≠ .char)
        = (marks m (kept ++ gone) []).filter (·.2 ≠ .char) := by
  by_cases hgone : gone = []
  · rw [hgone, List.append_nil]
    exact ⟨rfl, rfl⟩
  have hcut := hout hgone
  obtain ⟨hbehind, hmarks⟩ := behind_congr hcut []
  rw [Mode.behind_append, marks_append, List.append_nil, hcut, hbehind, hmarks,
    behind_of_plain hplain, List.filter_append]
  have hgo := marks_append_plain hplain [] []
  rw [List.append_nil, marks, List.append_nil] at hgo
  refine ⟨rfl, ?_⟩
  rw [hgo]
  simp

/-- Protected text stays if nothing but syntax is removed from any line. -/
theorem protected_lines {pos : Nat} {m : Mode} {lines : List Text}
    (h : ∀ t ∈ tokensFrom pos m (Text.join '\n' lines) [], t.index ∈ removedFrom pos lines →
      t.kind = .char) :
    (marks m (Text.join '\n' (lines.map stripTrailingComment)) []).filter (·.2 ≠ .char)
      = (marks m (Text.join '\n' lines) []).filter (·.2 ≠ .char) := by
  induction lines generalizing pos m with
  | nil => rfl
  | cons line lines ih =>
      obtain ⟨gone, hline, hplain, -⟩ := exists_removed line
      rw [Text.join_cons, tokensFrom_append] at h
      have hout : gone ≠ [] → m.behind (stripTrailingComment line) gone = .outside := by
        -- the first character that goes is syntax by assumption, so the walk comes to it outside
        intro hne
        obtain ⟨c, g, rfl⟩ := List.exists_cons_of_ne_nil hne
        have hindex : pos + (stripTrailingComment line).length
            ∈ removedFrom pos (line :: lines) := by
          have hlen := congrArg List.length hline
          rw [List.length_append, List.length_cons] at hlen
          rw [removedFrom, List.mem_append, List.mem_range'_1]
          exact .inl (by omega)
        have hfirst := h _ (List.mem_append_left _ (mem_tokensFrom_iff.mpr
          ⟨stripTrailingComment line, c, g, hline, rfl⟩)) hindex
        rw [← (Mode.read_eq_char_iff.mp hfirst).1, List.append_nil, behind_linesAfter]
      obtain ⟨hbehind, hmarks⟩ := protected_line hplain hout
      rw [← hline] at hbehind hmarks
      have hstart := behind_linesAfter m line [] lines
      have hstart' := behind_linesAfter m (stripTrailingComment line) []
        (lines.map stripTrailingComment)
      rw [List.nil_append] at hstart hstart'
      rw [List.map_cons, Text.join_cons, Text.join_cons, marks_append, marks_append,
        List.append_nil, List.append_nil, marks_linesAfter, marks_linesAfter, List.filter_append,
        List.filter_append, hmarks, hstart, hstart', hbehind]
      congr 1
      cases lines with
      | nil => rfl
      | cons l lines =>
          rw [List.append_nil, hstart, Text.linesAfter, tokensFrom] at h
          have hrest := ih fun t ht hi =>
            h t (List.mem_append_right _ (List.mem_cons_of_mem _ ht)) (List.mem_append_right _ hi)
          -- a newline looks at nothing behind it, so it reads alike in front of the shorter lines
          have hread := (m.behind line []).read_ahead (c := '\n') (by decide)
            (Text.join '\n' ((l :: lines).map stripTrailingComment) ++ [])
            (Text.join '\n' (l :: lines) ++ [])
          rw [Text.linesAfter, marks, List.filter_cons, ← hrest, ← hread]
          exact (List.filter_cons ..).trans rfl

/-! ## Stripping comments -/

/-- Without comment groups, only trailing comments are left to remove. -/
theorem stripComments_eq {pattern : Text} (h : ¬ ['(', '?', '#'] <:+: pattern) :
    stripComments pattern false
      = Text.join '\n' ((Text.splitOn '\n' pattern).map stripTrailingComment) := by
  rw [stripComments, stripCommentGroups_of_free h]
  rfl

/--
**What stripping comments removes outside free-spacing mode.**

In a pattern without comment groups, exactly the trailing comments of lines go. What goes is syntax,
unless it stands in a line that begins in a class. And if only syntax goes, then every class and
every escape is left as it was.
-/
theorem stripComments_removes {pattern : Text} (h : ¬ ['(', '?', '#'] <:+: pattern) :
    stripComments pattern false
        = ((tokens pattern).filter (·.index ∉ removedOffsets pattern)).map Token.char
      ∧ (∀ t ∈ tokens pattern, t.index ∈ removedOffsets pattern →
          t.kind = .char ∨ BeginsInClass pattern t.index)
      ∧ ((∀ t ∈ tokens pattern, t.index ∈ removedOffsets pattern → t.kind = .char) →
          protectedTokens (stripComments pattern false) = protectedTokens pattern) := by
  have hjoin := Text.join_splitOn '\n' pattern
  rw [stripComments_eq h]
  refine ⟨?_, fun t ht hi => kind_of_removed ht hi, fun honly => ?_⟩
  · rw [← filter_removedFrom 0 .outside, hjoin, tokens_eq]
    rfl
  · rw [protectedTokens_eq, protectedTokens_eq, @protected_lines 0, hjoin]
    intro t ht hi
    rw [hjoin, ← tokens_eq] at ht
    exact honly t ht hi

/-- An escaped `#` begins no comment. -/
theorem stripComments_removes_words :
    ¬ ['(', '?', '#'] <:+: "[x] #b\n \\# c".toList
      ∧ stripComments "[x] #b\n \\# c".toList false = "[x]\n \\# c".toList
      ∧ protectedTokens "[x]\n \\# c".toList = protectedTokens "[x] #b\n \\# c".toList := by
  have hfree : ¬ ['(', '?', '#'] <:+: "[x] #b\n \\# c".toList := by decide +kernel
  have hstripped : stripComments "[x] #b\n \\# c".toList false = "[x]\n \\# c".toList := by
    decide +kernel
  obtain ⟨-, -, hprotected⟩ := stripComments_removes hfree
  rw [hstripped] at hprotected
  exact ⟨hfree, hstripped, hprotected (by decide +kernel)⟩

/--
**Members of a class may be taken for a comment.**

The class goes over the end of a line. Its second line is walked as if it began outside, and the
members in it, a blank, a `#` and a `b`, are removed.
-/
theorem stripComments_removes_members :
    ¬ ['(', '?', '#'] <:+: "[a\n #b\n]".toList
      ∧ stripComments "[a\n #b\n]".toList false = "[a\n\n]".toList
      ∧ (∃ t ∈ tokens "[a\n #b\n]".toList, t.index ∈ removedOffsets "[a\n #b\n]".toList
          ∧ t.kind = .member)
      ∧ protectedTokens (stripComments "[a\n #b\n]".toList false)
          ≠ protectedTokens "[a\n #b\n]".toList := by
  decide +kernel

end SecretScan.Pattern
