import SecretScan.Proofs.Pattern.Grammar
import SecretScan.Proofs.Pattern.Place

/-!
# The walk follows the grammar

A walk has no notion of parts: it knows a depth, whether the last character was a backslash, and two
places noted while looking ahead. Still its tokens are the labels of the one reading of the text
(`tokens_of_isReading`), and in every state that stepping and jumping can reach, its depth is the
one that the reading gives at that place (`Walk.Reached.classDepth`).

Both go through modes. Every form of the grammar takes a mode to a mode and gives its labels on the
way (`Mode.Takes`), and that composes, so the proof has one lemma for each form.
-/

namespace SecretScan.Pattern

/-! ## Labels of a text in a mode -/

/-- How deep in classes a mode stands. -/
def Mode.depth : Mode → Nat
  | outside | escape => 0
  | opened | negated | members | memberEscape => 1
  | item _ => 2

theorem Mode.depth_le (m : Mode) : m.depth ≤ 2 := by
  cases m <;> simp [depth]

/-- The labels of `t` in front of `ahead`, as reading in a mode gives them. -/
def labelsFrom : Mode → Text → Text → List Label
  | _, [], _ => []
  | m, c :: t, ahead =>
    ⟨c, (m.read c (t ++ ahead)).1, m.depth⟩ :: labelsFrom (m.read c (t ++ ahead)).2 t ahead

/-- The token of a label, at offset `i`. -/
def Label.token (l : Label) (i : Nat) : Token :=
  ⟨i, l.char, l.kind, decide (0 < l.depth)⟩

theorem tokensFrom_map_index (pos : Nat) (m : Mode) (t ahead : Text) :
    (tokensFrom pos m t ahead).map Token.index = List.range' pos t.length := by
  induction t generalizing pos m with
  | nil => rfl
  | cons c t ih => rw [tokensFrom, List.map_cons, ih, List.length_cons, List.range'_succ]; rfl

theorem tokensFrom_eq_labels (pos : Nat) (m : Mode) (t ahead : Text) :
    tokensFrom pos m t ahead = ((labelsFrom m t ahead).zipIdx pos).map fun x => x.1.token x.2 := by
  induction t generalizing pos m with
  | nil => rfl
  | cons c t ih =>
      rw [tokensFrom, labelsFrom, List.zipIdx_cons, List.map_cons, ih]
      congr 1
      cases m <;> rfl

/-- `m.Takes t ahead ls m'`: in front of `ahead`, `t` leads from `m` to `m'` and gets `ls`. -/
def Mode.Takes (m : Mode) (t ahead : Text) (ls : List Label) (m' : Mode) : Prop :=
  labelsFrom m t ahead = ls ∧ m.behind t ahead = m'

namespace Mode

variable {m m' m'' : Mode} {c : Char} {s t ahead : Text} {ls ls' : List Label}

theorem takes_nil (m : Mode) (ahead : Text) : m.Takes [] ahead [] m :=
  ⟨rfl, rfl⟩

theorem Takes.cons {kind : TokenKind} {depth : Nat} (hd : m.depth = depth)
    (hread : m.read c (t ++ ahead) = (kind, m')) (h : m'.Takes t ahead ls m'') :
    m.Takes (c :: t) ahead (⟨c, kind, depth⟩ :: ls) m'' := by
  refine ⟨?_, ?_⟩
  · rw [labelsFrom, hread, h.1, hd]
  · rw [behind, hread, h.2]

theorem Takes.append (h : m.Takes s (t ++ ahead) ls m') (h' : m'.Takes t ahead ls' m'') :
    m.Takes (s ++ t) ahead (ls ++ ls') m'' := by
  induction s generalizing m ls with
  | nil =>
      obtain ⟨rfl, rfl⟩ := h
      exact h'
  | cons c s ih =>
      obtain ⟨hls, hb⟩ := h
      rw [labelsFrom] at hls
      rw [behind] at hb
      subst hls
      have hread : m.read c (s ++ t ++ ahead) = m.read c (s ++ (t ++ ahead)) := by
        rw [List.append_assoc]
      exact .cons rfl hread (ih ⟨rfl, hb⟩)

end Mode

/-! ## Members of a class -/

/-- `m.AtMember s`: in the mode `m` the text `s` is members of a class, and a `]` at its front
closes the class. -/
inductive Mode.AtMember : Mode → Text → Prop where
  | opened {s : Text} : s.head? ≠ some '^' → s.head? ≠ some ']' → AtMember .opened s
  | negated {s : Text} : s.head? ≠ some ']' → AtMember .negated s
  | members {s : Text} : AtMember .members s

namespace Mode.AtMember

variable {m : Mode} {s : Text}

theorem depth (h : m.AtMember s) : m.depth = 1 := by
  cases h <;> rfl

theorem read {c : Char} (h : m.AtMember (c :: s)) (hc : c ≠ ']') (ahead : Text) :
    m.read c ahead = readMember c ahead := by
  cases h with
  | opened hneg _ => exact if_neg fun e => hneg (congrArg some e)
  | negated _ => rfl
  | members => exact if_neg hc

end Mode.AtMember

theorem item_takes (name ahead : Text) :
    (Mode.item name.length).Takes (name ++ [']']) ahead
      (name.map (⟨·, .member, 2⟩) ++ [⟨']', .classClose, 2⟩]) .members := by
  induction name with
  | nil => exact ⟨rfl, rfl⟩
  | cons c name ih => exact .cons rfl rfl ih

/-- A member is read as the grammar labels it. -/
theorem Member.takes {x : Member} {m : Mode} {s : Text} (hx : x.Leads s)
    (hm : m.AtMember (x.text ++ s)) : m.Takes x.text s x.labels .members := by
  cases x with
  | pair c =>
      have hread := hm.read (by decide) ([c] ++ s)
      exact .cons hm.depth hread (.cons rfl rfl (Mode.takes_nil _ _))
  | named name =>
      have hread := hm.read (by decide) (name ++ [']'] ++ s)
      have hlen : namedItemLength? ('[' :: (name ++ [']'] ++ s)) = some (name.length + 2) :=
        namedItemLength?_eq_some.mpr ⟨name, s, hx, by simp, rfl⟩
      rw [Mode.readMember, if_neg (by decide), if_pos rfl, hlen] at hread
      exact .cons hm.depth hread (item_takes name s)
  | plain c =>
      obtain ⟨hback, hclose, hitem⟩ := hx
      have hread := hm.read hclose ([] ++ s)
      rw [Mode.readMember, if_neg hback] at hread
      have hplain : m.read c ([] ++ s) = (.member, .members) := by
        by_cases hopen : c = '['
        · have hnone : namedItemLength? ('[' :: ([] ++ s)) = none := by
            rw [Option.eq_none_iff_forall_ne_some]
            intro n hn
            obtain ⟨name, rest, hname, hs, -⟩ := namedItemLength?_eq_some.mp hn
            exact hitem hopen name rest hname hs
          rw [hread, if_pos hopen, hnone]
        · rw [hread, if_neg hopen]
      exact .cons hm.depth hplain (Mode.takes_nil _ _)

/-- So are the members of a class and what ends them. -/
theorem members_takes {ms : List Member} {e : Ending} {m : Mode} {s : Text}
    (hms : Member.AllLead ms (e.text ++ s))
    (hm : m.AtMember (ms.flatMap Member.text ++ (e.text ++ s))) :
    ∃ m', m.Takes (ms.flatMap Member.text ++ e.text) s
        (ms.flatMap Member.labels ++ e.labels) m'
      ∧ (e = .closed → m' = .outside) ∧ (e ≠ .closed → m'.depth = 1) := by
  induction ms generalizing m with
  | nil =>
      cases e with
      | closed =>
          refine ⟨.outside, ?_, fun _ => rfl, fun h => absurd rfl h⟩
          cases hm with
          | opened _ h => exact absurd rfl h
          | negated h => exact absurd rfl h
          | members => exact ⟨rfl, rfl⟩
      | unclosed => exact ⟨m, Mode.takes_nil _ _, nofun, fun _ => hm.depth⟩
      | dangling =>
          refine ⟨.memberEscape, ?_, nofun, fun _ => rfl⟩
          exact .cons hm.depth (hm.read (by decide) ([] ++ s)) (Mode.takes_nil _ _)
  | cons x ms ih =>
      rw [List.flatMap_cons, List.append_assoc] at hm
      have hx := Member.takes hms.1 hm
      obtain ⟨m', hrest, hclosed, hother⟩ := ih hms.2 .members
      refine ⟨m', ?_, hclosed, hother⟩
      rw [List.flatMap_cons, List.flatMap_cons, List.append_assoc, List.append_assoc]
      rw [← List.append_assoc] at hx
      exact hx.append hrest

/-! ## Classes, parts and readings -/

/-- How deep in classes a part leaves the end of the pattern. -/
def Part.endDepth : Part → Nat
  | cls k => if k.ending = .closed then 0 else 1
  | _ => 0

/-- How deep in classes the end of a pattern stands. -/
def endDepth (ps : List Part) : Nat :=
  (ps.getLast?.map Part.endDepth).getD 0

/-- The beginning of a class leads to its members. -/
theorem WrittenClass.first_takes {k : WrittenClass} {s : Text} (hk : k.Leads s) :
    ∃ m, Mode.opened.Takes (k.negation ++ k.first) (k.body ++ s)
        (k.negation.map (⟨·, .member, 1⟩) ++ k.first.map (⟨·, .member, 1⟩)) m
      ∧ m.AtMember (k.body ++ s) := by
  obtain ⟨negated, literal, ms, e⟩ := k
  cases negated with
  | false =>
      cases literal with
      | false => exact ⟨.opened, Mode.takes_nil _ _, .opened (hk.negated rfl) (hk.literal rfl)⟩
      | true => exact ⟨.members, .cons rfl rfl (Mode.takes_nil _ _), .members⟩
  | true =>
      cases literal with
      | false =>
          exact ⟨.negated, .cons rfl rfl (Mode.takes_nil _ _), .negated (hk.literal rfl)⟩
      | true =>
          exact ⟨.members, .cons rfl rfl (.cons rfl rfl (Mode.takes_nil _ _)), .members⟩

theorem WrittenClass.takes {k : WrittenClass} {s : Text} (hk : k.Leads s) :
    ∃ m, Mode.outside.Takes k.text s k.labels m
      ∧ (k.ending = .closed → m = .outside) ∧ (k.ending ≠ .closed → m.depth = 1) := by
  obtain ⟨m, hfirst, hm⟩ := k.first_takes hk
  rw [body, List.append_assoc] at hm
  obtain ⟨m', hbody, hend⟩ := members_takes hk.members hm
  refine ⟨m', ?_, hend⟩
  have h := hfirst.append hbody
  rw [List.append_assoc, List.append_assoc] at h
  exact .cons rfl rfl h

/-- A part is read as the grammar labels it, and leads outside if anything follows it. -/
theorem Part.takes {p : Part} {s : Text} (hp : p.Leads s) :
    ∃ m, Mode.outside.Takes p.text s p.labels m
      ∧ (s ≠ [] → m = .outside) ∧ m.depth = p.endDepth := by
  cases p with
  | pair c => exact ⟨.outside, .cons rfl rfl (.cons rfl rfl (Mode.takes_nil _ _)), fun _ => rfl, rfl⟩
  | dangling =>
      exact ⟨.escape, .cons rfl rfl (Mode.takes_nil _ _), fun h => absurd hp h, rfl⟩
  | cls k =>
      obtain ⟨m, hk, hclosed, hother⟩ := WrittenClass.takes hp
      by_cases he : k.ending = .closed
      · refine ⟨m, hk, fun _ => hclosed he, ?_⟩
        rw [hclosed he, endDepth, if_pos he]
        rfl
      · refine ⟨m, hk, fun hs => absurd (hp.ending he) hs, ?_⟩
        rw [hother he, endDepth, if_neg he]
  | plain c =>
      have hread : ∀ ahead, Mode.outside.read c ahead = (.char, .outside) := fun ahead =>
        Mode.read_plain hp ahead
      exact ⟨.outside, .cons rfl (hread _) (Mode.takes_nil _ _), fun _ => rfl, rfl⟩

/-- **A text is read as its one reading labels it.** -/
theorem IsReading.takes {s : Text} {ps : List Part} (h : IsReading s ps) :
    ∃ m, Mode.outside.Takes s [] (ps.flatMap Part.labels) m ∧ m.depth = endDepth ps := by
  induction h with
  | nil => exact ⟨.outside, Mode.takes_nil _ _, rfl⟩
  | @cons p s ps hp hps ih =>
      obtain ⟨m, hpart, houtside, hdepth⟩ := p.takes hp
      obtain ⟨m', hrest, hend⟩ := ih
      rw [← List.append_nil s] at hpart
      cases hps with
      | nil => exact ⟨m, hpart.append (Mode.takes_nil _ _), hdepth⟩
      | @cons q t qs hq hqs =>
          have hne : q.text ++ t ≠ [] := fun e => q.text_ne_nil (List.append_eq_nil_iff.mp e).1
          obtain rfl := houtside hne
          refine ⟨m', hpart.append hrest, ?_⟩
          rw [hend, endDepth, endDepth, List.getLast?_cons_cons]

/-! ## The states of a walk -/

/-- `Walk.Reached text start w`: steps and jumps lead to `w` in `text`, and it was put down last at
offset `start`. -/
inductive Walk.Reached (text : Text) : Nat → Walk → Prop where
  | start (pos : Nat) : Reached text pos (start text pos)
  | step {start : Nat} {w next : Walk} {t : Token} :
      Reached text start w → w.step = some (t, next) → Reached text start next
  | jump {start : Nat} {w : Walk} (pos : Nat) : Reached text start w → Reached text pos (w.jump pos)

namespace Walk

theorem Is.classDepth {w : Walk} {m : Mode} (h : w.Is m) : w.classDepth = m.depth := by
  cases m <;> exact h.1

theorem step_eq_some {w next : Walk} {t : Token} (h : w.step = some (t, next)) :
    ∃ c s, w.rest = c :: s ∧ next = (w.stepOn c).2 := by
  unfold step at h
  cases hc : w.text[w.pos]? with
  | none => rw [hc] at h; cases h
  | some c =>
      rw [hc] at h
      refine ⟨c, w.text.drop (w.pos + 1), ?_, (Prod.mk.inj (Option.some.inj h)).2.symm⟩
      rw [rest, List.drop_eq_getElem?_toList_append, hc]
      rfl

/-- A walk is in the mode behind the text that it has read since it was put down. -/
theorem Reached.is {text : Text} {start : Nat} {w : Walk} (h : Reached text start w) :
    w.text = text ∧ ∃ read, text.drop start = read ++ w.rest ∧ w.pos = start + read.length
      ∧ w.Is (Mode.outside.behind read w.rest) := by
  induction h with
  | start pos => exact ⟨rfl, [], rfl, rfl, start_is text pos⟩
  | @step start w next t _ hstep ih =>
      obtain ⟨htext, read, hread, hpos, his⟩ := ih
      obtain ⟨c, s, hrest, rfl⟩ := step_eq_some hstep
      refine ⟨(stepOn_text w c).trans htext, read ++ [c], ?_, ?_, ?_⟩
      · rw [hread, hrest, stepOn_rest hrest, List.append_assoc]
        rfl
      · rw [stepOn_pos, hpos, List.length_append]
        rfl
      · rw [stepOn_rest hrest, Mode.behind_append]
        rw [hrest] at his
        exact (his.stepOn hrest).2
  | @jump start w pos _ ih =>
      obtain ⟨htext, -⟩ := ih
      refine ⟨htext, [], ?_, rfl, jump_is w pos⟩
      rw [← htext]
      rfl

end Walk

/-- How deep the `i`-th character of a reading stands, or the end of the text. -/
def depthAt (ps : List Part) (i : Nat) : Nat :=
  ((ps.flatMap Part.labels)[i]?.map Label.depth).getD (endDepth ps)

theorem labelsFrom_getElem? (m : Mode) (s : Text) (c : Char) (t ahead : Text) :
    ((labelsFrom m (s ++ c :: t) ahead)[s.length]?).map Label.depth
      = some (m.behind s (c :: t ++ ahead)).depth := by
  induction s generalizing m with
  | nil => rfl
  | cons d s ih =>
      rw [List.cons_append, labelsFrom, List.length_cons, List.getElem?_cons_succ, ih, Mode.behind,
        List.append_assoc]

/-- **The depth of a walk is that of the reading.** -/
theorem Walk.Reached.classDepth {text : Text} {start : Nat} {w : Walk} {ps : List Part}
    (h : Reached text start w) (hps : IsReading (text.drop start) ps) :
    w.classDepth = depthAt ps (w.pos - start) := by
  obtain ⟨-, read, hread, hpos, his⟩ := h.is
  obtain ⟨m, ⟨hlabels, hbehind⟩, hend⟩ := hps.takes
  rw [his.classDepth, depthAt, hpos, Nat.add_sub_cancel_left, ← hlabels, hread]
  cases hr : w.rest with
  | nil =>
      rw [hread, hr, List.append_nil] at hbehind hlabels
      have hlen : (labelsFrom .outside read []).length = read.length := by
        rw [hlabels, ← List.length_map Label.char, hps.labels_char, hread, hr, List.append_nil]
      rw [List.append_nil, List.getElem?_eq_none hlen.le, hbehind, hend]
      rfl
  | cons c s =>
      rw [labelsFrom_getElem?, List.append_nil]
      rfl

/-! ## Named items -/

/-- The label at `i` is two deep. -/
def DeepAt (ls : List Label) (i : Nat) : Prop :=
  ls[i]?.map Label.depth = some 2

theorem deepAt_append {ls ks : List Label} {i : Nat} :
    DeepAt (ls ++ ks) i ↔ DeepAt ls i ∨ ∃ j, i = ls.length + j ∧ DeepAt ks j := by
  unfold DeepAt
  rw [List.getElem?_append]
  split
  · next h =>
      refine ⟨.inl, ?_⟩
      rintro (h' | ⟨j, rfl, -⟩)
      · exact h'
      · omega
  · next h =>
      rw [List.getElem?_eq_none (l := ls) (by omega)]
      constructor
      · intro h'
        exact .inr ⟨i - ls.length, by omega, h'⟩
      · rintro (h' | ⟨j, rfl, h'⟩)
        · cases h'
        · rwa [Nat.add_sub_cancel_left]

theorem not_deepAt {ls : List Label} (h : ∀ l ∈ ls, l.depth ≠ 2) (i : Nat) : ¬ DeepAt ls i := by
  intro hi
  obtain ⟨l, hl, hd⟩ := Option.map_eq_some_iff.mp hi
  exact h l (List.mem_of_getElem? hl) hd

/-- In labels of several things, one of them is two deep. -/
theorem deepAt_flatMap {α : Type} {f : α → List Label} {xs : List α} {i : Nat} :
    DeepAt (xs.flatMap f) i ↔ ∃ before x after j, xs = before ++ x :: after
      ∧ i = (before.flatMap f).length + j ∧ DeepAt (f x) j := by
  induction xs generalizing i with
  | nil =>
      constructor
      · nofun
      · rintro ⟨before, x, after, j, h, -⟩
        cases before <;> cases h
  | cons y xs ih =>
      rw [List.flatMap_cons, deepAt_append]
      constructor
      · rintro (h | ⟨j, rfl, h⟩)
        · exact ⟨[], y, xs, i, rfl, (Nat.zero_add i).symm, h⟩
        · obtain ⟨before, x, after, j, rfl, rfl, hx⟩ := ih.mp h
          refine ⟨y :: before, x, after, j, rfl, ?_, hx⟩
          rw [List.flatMap_cons, List.length_append, Nat.add_assoc]
      · rintro ⟨before, x, after, j, hxs, rfl, h⟩
        cases before with
        | nil =>
            obtain ⟨rfl, rfl⟩ := List.cons.inj hxs
            exact .inl (by simpa using h)
        | cons z before =>
            obtain ⟨rfl, rfl⟩ := List.cons.inj hxs
            refine .inr ⟨(before.flatMap f).length + j, ?_, ih.mpr ⟨before, x, after, j, rfl, rfl, h⟩⟩
            rw [List.flatMap_cons, List.length_append, Nat.add_assoc]

/-- Of a member only a named item goes two deep, behind its `[` up to its `]`. -/
theorem deepAt_member {x : Member} {i : Nat} :
    DeepAt x.labels i ↔ ∃ name, x = .named name ∧ 0 < i ∧ i ≤ name.length + 1 := by
  cases x with
  | pair c =>
      refine iff_of_false (not_deepAt (by simp [Member.labels]) i) ?_
      rintro ⟨name, h, -⟩
      cases h
  | plain c =>
      refine iff_of_false (not_deepAt (by simp [Member.labels]) i) ?_
      rintro ⟨name, h, -⟩
      cases h
  | named name =>
      have hlabels : (Member.named name).labels.map Label.depth
          = 1 :: List.replicate (name.length + 1) 2 := by
        simp [Member.labels, Function.comp_def, List.replicate_succ', List.map_const']
      rw [DeepAt, ← List.getElem?_map, hlabels]
      cases i with
      | zero => simp
      | succ i =>
          have hmember : (List.replicate (name.length + 1) 2)[i]? = some 2
              ↔ i < name.length + 1 := by
            rw [List.getElem?_replicate, ite_eq_left_iff, Nat.not_lt]
            simp
          rw [List.getElem?_cons_succ, hmember]
          refine ⟨fun h => ⟨name, rfl, Nat.succ_pos i, h⟩, ?_⟩
          rintro ⟨name', heq, -, h⟩
          cases heq
          exact h

/-- Of a class only the members go two deep. -/
theorem deepAt_class {k : WrittenClass} {i : Nat} :
    DeepAt k.labels i ↔ ∃ j, i = 1 + k.negation.length + k.first.length + j
      ∧ DeepAt (k.members.flatMap Member.labels) j := by
  have hhead : k.labels = (⟨'[', .classOpen, 0⟩ :: (k.negation.map (⟨·, .member, 1⟩)
      ++ k.first.map (⟨·, .member, 1⟩))) ++ (k.members.flatMap Member.labels ++ k.ending.labels) := by
    simp [WrittenClass.labels]
  have hending : ∀ j, ¬ DeepAt k.ending.labels j := by
    refine not_deepAt ?_
    cases k.ending <;> simp [Ending.labels]
  rw [hhead, deepAt_append, or_iff_right (not_deepAt (by simp; grind) i)]
  refine exists_congr fun j => and_congr ?_ ?_
  · simp [Nat.add_comm, Nat.add_left_comm]
  · rw [deepAt_append, or_iff_left]
    rintro ⟨j', -, h⟩
    exact hending j' h

/-- `InNamedItem ps i`: the `i`-th place of the reading lies behind the `[` of a named item, and not
behind its `]`. -/
def InNamedItem (ps : List Part) (i : Nat) : Prop :=
  ∃ before k after ms name ms', ps = before ++ .cls k :: after ∧ k.members = ms ++ .named name :: ms'
    ∧ let opener := (before.flatMap Part.text).length
        + (1 + k.negation.length + k.first.length + (ms.flatMap Member.text).length)
      opener < i ∧ i ≤ opener + name.length + 1

theorem length_flatMap_labels {α : Type} {f : α → List Label} {g : α → Text}
    (h : ∀ x, (f x).map Label.char = g x) (xs : List α) :
    (xs.flatMap f).length = (xs.flatMap g).length := by
  rw [← List.length_map Label.char, List.map_flatMap, funext h]

/-- A place is two deep exactly between the brackets of a named item. -/
theorem depthAt_eq_two_iff {ps : List Part} {i : Nat} : depthAt ps i = 2 ↔ InNamedItem ps i := by
  have hend : endDepth ps ≠ 2 := by
    unfold endDepth
    cases ps.getLast? with
    | none => nofun
    | some p =>
        cases p with
        | cls k => simp [Part.endDepth]; grind
        | _ => nofun
  have hdeep : depthAt ps i = 2 ↔ DeepAt (ps.flatMap Part.labels) i := by
    unfold depthAt DeepAt
    cases (ps.flatMap Part.labels)[i]? with
    | none => exact iff_of_false hend nofun
    | some l => simp
  rw [hdeep, deepAt_flatMap]
  constructor
  · rintro ⟨before, p, after, j, rfl, rfl, hp⟩
    cases p with
    | cls k =>
        obtain ⟨j, rfl, hk⟩ := deepAt_class.mp hp
        obtain ⟨ms, x, ms', j, hms, rfl, hx⟩ := deepAt_flatMap.mp hk
        obtain ⟨name, rfl, hlow, hhigh⟩ := deepAt_member.mp hx
        refine ⟨before, k, after, ms, name, ms', rfl, hms, ?_⟩
        rw [length_flatMap_labels Part.labels_char, length_flatMap_labels Member.labels_char]
        dsimp only
        omega
    | _ => exact absurd hp (not_deepAt (by simp [Part.labels]) j)
  · rintro ⟨before, k, after, ms, name, ms', rfl, hms, hlow, hhigh⟩
    rw [← length_flatMap_labels Part.labels_char, ← length_flatMap_labels Member.labels_char]
      at hlow hhigh
    refine ⟨before, .cls k, after, _, rfl, (Nat.add_sub_cancel' ?_).symm,
      deepAt_class.mpr ⟨_, (Nat.add_sub_cancel' ?_).symm,
        deepAt_flatMap.mpr ⟨ms, .named name, ms', _, hms, (Nat.add_sub_cancel' ?_).symm,
          deepAt_member.mpr ⟨name, rfl, ?_, ?_⟩⟩⟩⟩
    all_goals omega

/-! ## The lexer -/

/-- The walk stands before a `]` that would end a named item, but not where the item ends. -/
def Walk.MeetsStrayClose (w : Walk) : Prop :=
  w.escaped = false ∧ 1 < w.classDepth ∧ w.text[w.pos]? = some ']'
    ∧ w.literalClose ≠ some w.pos ∧ w.itemClose ≠ some w.pos

/-- In a named item the first `]` is where it ends. -/
theorem Walk.Is.not_meetsStrayClose {w : Walk} {m : Mode} (h : w.Is m) : ¬ w.MeetsStrayClose := by
  rintro ⟨-, hdepth, hchar, -, hitem⟩
  rw [h.classDepth] at hdepth
  cases m with
  | item left =>
      obtain ⟨-, -, -, hclose, name, after, hrest, rfl, hname⟩ := h
      rw [← List.head?_drop] at hchar
      rw [rest] at hrest
      rw [hrest] at hchar
      cases name with
      | nil => exact hitem hclose
      | cons c name => exact (hname c List.mem_cons_self).1 (Option.some.inj hchar)
  | _ => simp [Mode.depth] at hdepth

/--
**The walk is a lexer of the grammar.**

From any offset on, a text has exactly one reading, and the tokens of the walk are its labels, one
for each character, in order. Wherever steps and jumps lead, the walk is as deep in classes as the
reading from the offset where it was put down last: never deeper than 2, and 2 exactly between the
brackets of a named item. There the only `]` is the one at the place noted, so it is never taken for
a member.
-/
theorem walk_lexes (text : Text) (start : Nat) :
    let tokens := (Walk.start text start).tokens
    ∃ ps, IsReading (text.drop start) ps ∧ (∀ ps', IsReading (text.drop start) ps' → ps' = ps)
      ∧ tokens = ((ps.flatMap Part.labels).zipIdx start).map (fun x => x.1.token x.2)
      ∧ tokens.map Token.index = List.range' start (text.length - start)
      ∧ tokens.map Token.char = text.drop start
      ∧ ∀ w, Walk.Reached text start w →
          w.classDepth = depthAt ps (w.pos - start) ∧ w.classDepth ≤ 2
          ∧ (w.classDepth = 2 ↔ InNamedItem ps (w.pos - start)) ∧ ¬ w.MeetsStrayClose := by
  intro tokens
  obtain ⟨ps, hps, hunique⟩ := existsUnique_isReading (text.drop start)
  obtain ⟨m, ⟨hlabels, -⟩, -⟩ := hps.takes
  have htokens : tokens = tokensFrom start .outside (text.drop start) [] :=
    (Walk.start_is text start).tokens_eq
  refine ⟨ps, hps, hunique, ?_, ?_, ?_, fun w hw => ?_⟩
  · rw [htokens, tokensFrom_eq_labels, hlabels]
  · rw [htokens, tokensFrom_map_index, List.length_drop]
  · rw [htokens, tokensFrom_map_char]
  · obtain ⟨-, read, -, -, his⟩ := hw.is
    have hdepth := hw.classDepth hps
    refine ⟨hdepth, ?_, ?_, his.not_meetsStrayClose⟩
    · rw [his.classDepth]
      exact Mode.depth_le _
    · rw [hdepth, depthAt_eq_two_iff]

end SecretScan.Pattern
