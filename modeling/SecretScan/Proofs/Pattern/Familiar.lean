import SecretScan.Proofs.Pattern.Nesting
import SecretScan.Proofs.Pattern.Place

/-!
# Patterns that mislead no walk

A walk takes `[:` and a name for a named item only if the name is made of letters, it knows no
comment groups, and it takes flags for text: comments and flags are taken out before anything is
balanced. So there are three things in a pattern that it misunderstands. At a named item with
another name it leaves the class too early, which does no harm if the rest of the class is tame; it
looks for syntax in a comment group; and it goes on as before where flags say that the pattern is
written in another way. `IsFamiliar` says that a pattern misleads no walk like this, `Mode.Familiar`
the same for what is left of it in a mode.

What the reading of such a pattern gives is put together from stretches that leave the nesting of
groups as it is (`Mode.Reads`). They compose, and a group around such a stretch is one again.
-/

namespace SecretScan.Pattern

/-! ## Harmless characters -/

/-- A character that begins no escape and opens and closes nothing. -/
def IsHarmless (c : Char) : Prop :=
  c ∉ ['\\', '[', ']', '(', ')']
deriving Decidable

theorem isHarmless_iff {c : Char} :
    IsHarmless c ↔ c ≠ '\\' ∧ c ≠ '[' ∧ c ≠ ']' ∧ c ≠ '(' ∧ c ≠ ')' := by
  simp [IsHarmless]

theorem isHarmless_of_class {p : Char → Bool} {c : Char} (h : p c = true)
    (hp : ['\\', '[', ']', '(', ')'].any p = false) : IsHarmless c :=
  fun hc => List.any_eq_false.mp hp c hc h

theorem isHarmless_of_all {t : Text} (h : t.all (IsHarmless ·) = true) : ∀ c ∈ t, IsHarmless c :=
  fun c hc => of_decide_eq_true (List.all_eq_true.mp h c hc)

theorem IsHarmless.isInert {c : Char} (h : IsHarmless c) : IsInert c := by
  obtain ⟨hback, hopen, -, hgroup, hend⟩ := isHarmless_iff.mp h
  exact ⟨⟨hback, hopen⟩, hgroup, hend⟩

/-! ## Familiar patterns -/

/-- Whether `c` may stand in a named item, between its square brackets. -/
def isItemChar (c : Char) : Bool :=
  c.isAlphanum || " &_-./:=^".toList.contains c

/-- Whether the text begins with `[:`, the rest of a named item of any kind, and `:]`. -/
def beginsNamedItem : Text → Bool
  | '[' :: ':' :: s =>
    let name := s.takeWhile (· ≠ ']')
    name.getLast? = some ':' && name.all isItemChar
  | _ => false

/-- Whether what is left of a class holds neither `[` nor a parenthesis, escaped ones apart. -/
def isTame : Text → Bool
  | [] => true
  | ']' :: _ => true
  | '\\' :: _ :: s => isTame s
  | c :: s => !(['\\', '[', '(', ')'].contains c) && isTame s

/-- Whether the text begins with a comment group that holds an escape, a `[` or a `(`. -/
def beginsOddComment : Text → Bool
  | '(' :: '?' :: '#' :: s => (s.takeWhile (· ≠ ')')).any fun c => !decide (IsInert c)
  | _ => false

/-- Whether the text begins with flags that make a pattern be written in another way: with blanks
and comments that mean nothing, or with classes in classes. -/
def switchesNotation : Text → Bool
  | '(' :: '?' :: s =>
    let flags := s.takeWhile Char.isAlphanum
    flags.contains 'x' || Text.hasInfix "V1".toList flags
  | _ => false

/-- Whether a walk is misled that gives the first character of `s` this kind: it takes the front of
a named item for a plain member and the class goes on behind the item with more than tame text, it
takes the front of a comment group for syntax and there is more of that in the comment, or it takes
flags for text that switch to another notation. -/
def misleads (kind : TokenKind) (s : Text) : Bool :=
  match kind with
  | .member => beginsNamedItem s && !isTame (s.dropWhile (· ≠ ']')).tail
  | .char => beginsOddComment s || switchesNotation s
  | _ => false

/-- No character of the pattern misleads a walk. -/
def IsFamiliar (pattern : Text) : Prop :=
  ∀ t ∈ tokens pattern, misleads t.kind (pattern.drop t.index) = false
deriving Decidable

namespace Mode

variable {m m' m'' : Mode} {s t u : Text} {c : Char}

/-- No character of `s` does, read in the mode `m`. -/
def Familiar (m : Mode) (s : Text) : Prop :=
  ∀ u c t, s = u ++ c :: t → misleads ((m.behind u (c :: t)).read c t).1 (c :: t) = false

theorem Familiar.behind (h : m.Familiar (u ++ s)) : (m.behind u s).Familiar s := by
  rintro v c t rfl
  have hv := h (u ++ v) c t (List.append_assoc u v (c :: t)).symm
  rwa [behind_append] at hv

theorem Familiar.tail (h : m.Familiar (c :: s)) : (m.read c s).2.Familiar s :=
  Familiar.behind (u := [c]) h

end Mode

theorem IsFamiliar.outside {pattern : Text} (h : IsFamiliar pattern) :
    Mode.outside.Familiar pattern := by
  intro u c t hp
  have hmem : tokenIn (Mode.outside.behind u (c :: t)) u.length c t ∈ tokens pattern :=
    mem_tokens_iff.mpr ⟨u, c, t, hp, rfl⟩
  have hdrop : pattern.drop u.length = c :: t := by rw [hp, List.drop_left]
  have ht := h _ hmem
  rw [show (tokenIn (Mode.outside.behind u (c :: t)) u.length c t).index = u.length from rfl,
    hdrop] at ht
  exact ht

/-! ## Named items -/

theorem isHarmless_of_isItemChar {c : Char} (h : isItemChar c = true) : IsHarmless c :=
  isHarmless_of_class h (by decide)

/-- Whatever stands between `[:` and `:]`, it is a named item if its characters may stand there. -/
theorem beginsNamedItem_of_isItemChar {name : Text} (h : ∀ c ∈ name, isItemChar c = true)
    (rest : Text) :
    beginsNamedItem ('[' :: ':' :: (name ++ ':' :: ']' :: rest)) = true := by
  have hall : ∀ c ∈ name ++ [':'], isItemChar c = true :=
    List.forall_mem_append.mpr ⟨h, List.forall_mem_singleton.mpr (by decide)⟩
  have hclose : ∀ c ∈ name ++ [':'], c ≠ ']' := fun c hc =>
    (isHarmless_iff.mp (isHarmless_of_isItemChar (hall c hc))).2.2.1
  have htake : (name ++ ':' :: ']' :: rest).takeWhile (· ≠ ']') = name ++ [':'] := by
    have := takeWhile_ne_append (r := rest) hclose
    rwa [List.append_assoc] at this
  rw [beginsNamedItem, htake]
  simp [List.all_eq_true.mpr h, show isItemChar ':' = true by decide]

/-! ## Tame text -/

/-- A character that is no escape and closes nothing is tame if it is inert. -/
theorem isTame_cons {c : Char} {s : Text} (hback : c ≠ '\\') (hclose : c ≠ ']') :
    isTame (c :: s) = true ↔ IsInert c ∧ isTame s = true := by
  have hcons : isTame (c :: s) = (!(['\\', '[', '(', ')'].contains c) && isTame s) := by
    rw [isTame]
    · exact hclose
    · exact fun _ _ e _ => hback e
  rw [hcons, Bool.and_eq_true]
  simp [IsInert, IsPlain, hback]

/-! ## Stretches that leave the nesting as it is -/

namespace Mode

variable {m m' m'' : Mode} {s t u : Text} {c : Char}

/-- `m.Reads s m' t`: reading leads from the mode `m` in front of `s` to the mode `m'` in front of
`t`, the end of `s`, and every group opened on the way is closed on the way. -/
def Reads (m : Mode) (s : Text) (m' : Mode) (t : Text) : Prop :=
  ∃ u, s = u ++ t ∧ m.behind u t = m' ∧ ∀ depth, nesting depth (marks m u t) = some depth

namespace Reads

theorem refl (m : Mode) (s : Text) : m.Reads s m s :=
  ⟨[], rfl, rfl, fun _ => rfl⟩

theorem trans (h : m.Reads s m' t) (h' : m'.Reads t m'' u) : m.Reads s m'' u := by
  obtain ⟨v, rfl, rfl, hv⟩ := h
  obtain ⟨w, rfl, rfl, hw⟩ := h'
  refine ⟨v ++ w, (List.append_assoc v w u).symm, behind_append m v w u, fun depth => ?_⟩
  rw [marks_append, nesting_append, hv]
  exact hw depth

theorem familiar (h : m.Reads s m' t) (hs : m.Familiar s) : m'.Familiar t := by
  obtain ⟨u, rfl, rfl, -⟩ := h
  exact hs.behind

/-- One character that is no syntax. -/
theorem step {kind : TokenKind} (hread : m.read c t = (kind, m')) (hkind : kind ≠ .char) :
    m.Reads (c :: t) m' t := by
  refine ⟨[c], rfl, ?_, fun depth => ?_⟩
  · rw [behind, List.nil_append, hread]
    rfl
  · rw [marks, List.nil_append, hread, nesting_other (by simp [hkind]) (by simp [hkind])]
    rfl

/-- Plain characters without parentheses. -/
theorem inert (h : ∀ c ∈ u, IsInert c) (t : Text) : outside.Reads (u ++ t) .outside t := by
  have hplain : ∀ c ∈ u, IsPlain c := fun c hc => (h c hc).1
  refine ⟨u, rfl, behind_of_plain hplain t, fun depth => ?_⟩
  have hmarks : marks outside u t = syntaxMarks u := by
    have := marks_append_plain hplain [] t
    rwa [List.append_nil, marks, List.append_nil] at this
  rw [hmarks, nesting_of_inert h]

/-- **A group around a stretch.** -/
theorem group (h : outside.Reads s .outside (')' :: t)) : outside.Reads ('(' :: s) .outside t := by
  obtain ⟨u, rfl, hb, hn⟩ := h
  refine ⟨'(' :: u ++ [')'], by simp, ?_, fun depth => ?_⟩
  · rw [behind_append]
    show (outside.behind u (')' :: t)).behind [')'] t = outside
    rw [hb]
    rfl
  · have hopen : marks outside ('(' :: u) (')' :: t) = ('(', .char) :: marks outside u (')' :: t) :=
      marks_cons_plain (by decide) u (')' :: t)
    have hclose : outside.behind ('(' :: u) (')' :: t) = outside := hb
    rw [marks_append]
    show nesting depth (marks outside ('(' :: u) (')' :: t) ++ _) = _
    rw [hopen, List.cons_append, nesting_open, nesting_append, hn]
    show nesting (depth + 1) (marks (outside.behind ('(' :: u) (')' :: t)) [')'] t) = _
    rw [hclose]
    rfl

end Reads

end Mode

end SecretScan.Pattern
