import SecretScan.Proofs.Pattern.Form

/-!
# Groups before and after a pass

The passes that change openers write an opener where one was. So the groups of what comes out
correspond to the groups of what goes in, one to one, and the text from one of them on is what the
pass makes of the text from the other one on (`Rewrites.corresponds`). Flat text is copied, and what
is flat in the output was copied from the input (`Rewrites.copies`, `Rewrites.copied`).

Hence a form that the pass does not look for is in the output wherever it is in the input. The other
way round there is one more possibility: the pass has put the form together from what it writes and
what follows (`Rewrites.form_of_out`).
-/

namespace SecretScan.Pattern

variable {α : Type} {f : Text → Option (Span α)} {s t : Text} {notes : List α}

/-- `Opens f`: every span that `f` chooses is a `(` and flat text behind it. -/
def Opens (f : Text → Option (Span α)) : Prop :=
  ∀ s span, f s = some span → ∃ body rest, s = '(' :: (body ++ rest) ∧ Flat body
    ∧ span.length = body.length + 1

/-- `Reopens f`: so is what is written in its place. -/
structure Reopens (f : Text → Option (Span α)) : Prop where
  opens : Opens f
  out : ∀ s span, f s = some span → ∃ out, span.out = '(' :: out ∧ Flat out

theorem Opens.front (hf : Opens f) {r : Text} {span : Span α} (h : f r = some span) :
    ∃ q, r = '(' :: q := by
  obtain ⟨body, rest, rfl, -⟩ := hf r span h
  exact ⟨body ++ rest, rfl⟩

theorem Opens.split (hf : Opens f) {c : Char} {span : Span α} (h : f (c :: s) = some span) :
    ∃ body rest, c = '(' ∧ s = body ++ rest ∧ Flat body ∧ (c :: s).drop span.length = rest := by
  obtain ⟨body, rest, hs, hbody, hlen⟩ := hf _ _ h
  obtain ⟨rfl, rfl⟩ := List.cons.inj hs
  refine ⟨body, rest, rfl, rfl, hbody, ?_⟩
  rw [hlen, List.drop_succ_cons, List.drop_left]

/-! ## What is noted -/

/-- **A pass notes exactly the spans at the groups of its input.** -/
theorem Rewrites.mem_notes_iff (hf : Opens f) (h : Rewrites f s t notes) {note : α} :
    note ∈ notes ↔ ∃ r span, SyntaxAt s r ∧ f r = some span ∧ span.note = note := by
  induction h with
  | nil => exact ⟨nofun, fun ⟨r, _, hr, _⟩ => absurd hr not_syntaxAt_nil⟩
  | @keep c s t notes hc hnone _ ih =>
      rw [ih]
      constructor
      · rintro ⟨r, span, hr, hspan⟩
        exact ⟨r, span, (syntaxAt_cons hc).mpr (.inr hr), hspan⟩
      · rintro ⟨r, span, hr, hspan, hnote⟩
        rcases (syntaxAt_cons hc).mp hr with rfl | hr
        · rw [hnone] at hspan
          cases hspan
        · exact ⟨r, span, hr, hspan, hnote⟩
  | @span c s t notes span hc hspan _ ih =>
      obtain ⟨body, rest, rfl, rfl, hbody, hdrop⟩ := hf.split hspan
      rw [hdrop] at ih
      rw [List.mem_cons, ih]
      -- no span begins within another one, since what is behind its `(` is flat
      constructor
      · rintro (rfl | ⟨r, span', hr, hspan', hnote⟩)
        · exact ⟨_, span, (syntaxAt_cons hc).mpr (.inl rfl), hspan, rfl⟩
        · obtain ⟨q, rfl⟩ := hf.front hspan'
          have hbehind := (syntaxAt_flat hbody).mpr hr
          exact ⟨_, span', (syntaxAt_cons hc).mpr (.inr hbehind), hspan', hnote⟩
      · rintro ⟨r, span', hr, hspan', hnote⟩
        rcases (syntaxAt_cons hc).mp hr with rfl | hr
        · obtain rfl := Option.some.inj (hspan.symm.trans hspan')
          exact .inl hnote.symm
        · obtain ⟨q, rfl⟩ := hf.front hspan'
          exact .inr ⟨_, span', (syntaxAt_flat hbody).mp hr, hspan', hnote⟩
  | sealed hp _ ih =>
      rw [ih]
      exact exists_congr fun r => exists_congr fun span => by rw [syntaxAt_sealed hp]
  | hanging hp => exact ⟨nofun, fun ⟨r, _, hr, _⟩ => absurd hr (not_syntaxAt_hanging hp)⟩

/-! ## Groups in the input and in the output -/

/-- The groups of `s` and `t` correspond, and from each of them on `f` makes `t` of `s`. -/
structure Corresponds (f : Text → Option (Span α)) (s t : Text) : Prop where
  forth : ∀ q, SyntaxAt s ('(' :: q) →
    ∃ u notes, SyntaxAt t ('(' :: u) ∧ Rewrites f ('(' :: q) ('(' :: u) notes
  back : ∀ u, SyntaxAt t ('(' :: u) →
    ∃ q notes, SyntaxAt s ('(' :: q) ∧ Rewrites f ('(' :: q) ('(' :: u) notes

/-- One more group may be in front, on both sides. -/
theorem Corresponds.front {s' t' : Text} (ih : Corresponds f s t) (h : Rewrites f s' t' notes)
    (hhead : s'.head? = t'.head?)
    (hs : ∀ q, SyntaxAt s' ('(' :: q) ↔ '(' :: q = s' ∨ SyntaxAt s ('(' :: q))
    (ht : ∀ u, SyntaxAt t' ('(' :: u) ↔ '(' :: u = t' ∨ SyntaxAt t ('(' :: u)) :
    Corresponds f s' t' where
  forth := by
    intro q hq
    rcases (hs q).mp hq with rfl | hq
    · obtain ⟨u, rfl⟩ := List.head?_eq_some_iff.mp hhead.symm
      exact ⟨u, notes, (ht u).mpr (.inl rfl), h⟩
    · obtain ⟨u, notes', hu, hr⟩ := ih.forth q hq
      exact ⟨u, notes', (ht u).mpr (.inr hu), hr⟩
  back := by
    intro u hu
    rcases (ht u).mp hu with rfl | hu
    · obtain ⟨q, rfl⟩ := List.head?_eq_some_iff.mp hhead
      exact ⟨q, notes, (hs q).mpr (.inl rfl), h⟩
    · obtain ⟨q, notes', hq, hr⟩ := ih.back u hu
      exact ⟨q, notes', (hs q).mpr (.inr hq), hr⟩

/-- **The groups before a pass and behind it correspond.** -/
theorem Rewrites.corresponds (hf : Reopens f) (h : Rewrites f s t notes) : Corresponds f s t := by
  induction h with
  | nil => exact ⟨fun _ hq => absurd hq not_syntaxAt_nil, fun _ hu => absurd hu not_syntaxAt_nil⟩
  | keep hc hnone hrest ih =>
      exact ih.front (.keep hc hnone hrest) rfl (fun q => syntaxAt_cons hc)
        fun u => syntaxAt_cons hc
  | @span c s t notes span hc hspan hrest ih =>
      obtain ⟨body, rest, rfl, rfl, hbody, hdrop⟩ := hf.opens.split hspan
      obtain ⟨out, hout, hflat⟩ := hf.out _ _ hspan
      rw [hdrop] at ih
      -- an opener on both sides, and no other group begins before `rest` or before what it becomes
      refine ih.front (.span hc hspan hrest) ?_ (fun q => ?_) fun u => ?_
      · rw [hout]
        rfl
      · rw [syntaxAt_cons hc, syntaxAt_flat hbody]
      · rw [hout, List.cons_append, syntaxAt_cons hc, syntaxAt_flat hflat]
  | sealed hp _ ih =>
      refine ⟨fun q hq => ?_, fun u hu => ?_⟩
      · obtain ⟨u, notes, hu, hr⟩ := ih.forth q ((syntaxAt_sealed hp).mp hq)
        exact ⟨u, notes, (syntaxAt_sealed hp).mpr hu, hr⟩
      · obtain ⟨q, notes, hq, hr⟩ := ih.back u ((syntaxAt_sealed hp).mp hu)
        exact ⟨q, notes, (syntaxAt_sealed hp).mpr hq, hr⟩
  | hanging hp =>
      exact ⟨fun _ hq => absurd hq (not_syntaxAt_hanging hp),
        fun _ hu => absurd hu (not_syntaxAt_hanging hp)⟩

/-- A pass leaves the first character as it is. -/
theorem Rewrites.head? (hf : Reopens f) (h : Rewrites f s t notes) : t.head? = s.head? := by
  cases h with
  | nil => rfl
  | keep => rfl
  | span _ hspan =>
      obtain ⟨body, rest, rfl, -⟩ := hf.opens.split hspan
      obtain ⟨out, hout, -⟩ := hf.out _ _ hspan
      rw [hout]
      rfl
  | @sealed p s t notes hp =>
      obtain ⟨c, p, rfl⟩ := List.exists_cons_of_ne_nil hp.ne_nil
      rfl
  | hanging => rfl

/-! ## What is copied -/

/-- A plain character is copied, or a span begins at it. -/
theorem Rewrites.cons_cases {c : Char} (hc : IsPlain c) (h : Rewrites f (c :: s) t notes) :
    (f (c :: s) = none ∧ ∃ u, t = c :: u ∧ Rewrites f s u notes)
      ∨ ∃ span u notes', f (c :: s) = some span ∧ t = span.out ++ u
        ∧ Rewrites f ((c :: s).drop span.length) u notes' := by
  generalize hs : c :: s = r at h
  cases h with
  | nil => cases hs
  | keep _ hnone hrest =>
      obtain ⟨rfl, rfl⟩ := List.cons.inj hs
      exact .inl ⟨hnone, _, rfl, hrest⟩
  | span _ hspan hrest =>
      obtain ⟨rfl, rfl⟩ := List.cons.inj hs
      exact .inr ⟨_, _, _, hspan, rfl, hrest⟩
  | @sealed p s' t' notes' hp =>
      -- nothing in a sealed piece is plain
      obtain ⟨d, p, rfl⟩ := List.exists_cons_of_ne_nil hp.ne_nil
      obtain ⟨rfl, -⟩ := List.cons.inj hs
      exact absurd hc (not_plain_of_covered hp.covered (a := []) rfl rfl)
  | hanging hp => exact absurd hc (not_plain_of_covered hp (a := []) hs.symm rfl)

/-- What is plain and opens no group is in the output because it was in the input. -/
theorem Rewrites.out_cons (hf : Reopens f) {c : Char} (hc : IsPlain c ∧ c ≠ '(')
    (h : Rewrites f s (c :: t) notes) : ∃ s', s = c :: s' ∧ Rewrites f s' t notes := by
  have hhead := h.head? hf
  obtain ⟨s', rfl⟩ := List.head?_eq_some_iff.mp hhead.symm
  rcases h.cons_cases hc.1 with ⟨-, u, hu, hrest⟩ | ⟨span, u, notes', hspan, -⟩
  · obtain rfl := (List.cons.inj hu).2
    exact ⟨s', rfl, hrest⟩
  · obtain ⟨q, hq⟩ := hf.opens.front hspan
    exact absurd (List.cons.inj hq).1 hc.2

theorem Rewrites.copies (hf : Opens f) {a : Text} (ha : Flat a)
    (h : Rewrites f (a ++ s) t notes) : ∃ u, t = a ++ u ∧ Rewrites f s u notes := by
  induction a generalizing t with
  | nil => exact ⟨t, rfl, h⟩
  | cons c a ih =>
      obtain ⟨hc, hopen⟩ := ha c List.mem_cons_self
      rcases h.cons_cases hc with ⟨-, u, rfl, hrest⟩ | ⟨span, u, notes', hspan, -⟩
      · obtain ⟨v, rfl, hv⟩ := ih (fun d hd => ha d (List.mem_cons_of_mem c hd)) hrest
        exact ⟨v, rfl, hv⟩
      · obtain ⟨q, hq⟩ := hf.front hspan
        exact absurd (List.cons.inj hq).1 hopen

theorem Rewrites.copied (hf : Reopens f) {a : Text} (ha : Flat a)
    (h : Rewrites f s (a ++ t) notes) : ∃ r, s = a ++ r ∧ Rewrites f r t notes := by
  induction a generalizing s with
  | nil => exact ⟨s, rfl, h⟩
  | cons c a ih =>
      obtain ⟨s', rfl, hrest⟩ := h.out_cons hf (ha c List.mem_cons_self)
      obtain ⟨r, rfl, hr⟩ := ih (fun d hd => ha d (List.mem_cons_of_mem c hd)) hrest
      exact ⟨r, rfl, hr⟩

/-! ## Forms in the input and in the output -/

/-- **A form that a pass does not look for stays.** -/
theorem Rewrites.form (hf : Reopens f) (h : Rewrites f s t notes) {body rest : Text}
    (hbody : Flat body) (hnone : f ('(' :: (body ++ rest)) = none)
    (hs : SyntaxAt s ('(' :: (body ++ rest))) :
    ∃ rest' notes', SyntaxAt t ('(' :: (body ++ rest')) ∧ Rewrites f rest rest' notes' := by
  obtain ⟨u, notes', hu, hr⟩ := (h.corresponds hf).forth _ hs
  rcases hr.cons_cases (by decide) with ⟨-, v, hv, hrest⟩ | ⟨span, v, notes'', hspan, -⟩
  · obtain rfl := (List.cons.inj hv).2
    obtain ⟨rest', rfl, hrest'⟩ := hrest.copies hf.opens hbody
    exact ⟨rest', notes', hu, hrest'⟩
  · rw [hnone] at hspan
    cases hspan

/-- **A form in the output was in the input, or a span that is written became one.** -/
theorem Rewrites.form_of_out (hf : Reopens f) (h : Rewrites f s t notes) {body rest' : Text}
    (hbody : Flat body) (ht : SyntaxAt t ('(' :: (body ++ rest'))) :
    (∃ rest notes', SyntaxAt s ('(' :: (body ++ rest)) ∧ Rewrites f rest rest' notes')
      ∨ ∃ r span u notes', SyntaxAt s r ∧ f r = some span
        ∧ '(' :: (body ++ rest') = span.out ++ u ∧ Rewrites f (r.drop span.length) u notes' := by
  obtain ⟨q, notes', hq, hr⟩ := (h.corresponds hf).back _ ht
  rcases hr.cons_cases (by decide) with ⟨-, v, hv, hrest⟩ | ⟨span, v, notes'', hspan, hv, hrest⟩
  · obtain rfl := (List.cons.inj hv).2
    obtain ⟨rest, rfl, hrest'⟩ := hrest.copied hf hbody
    exact .inl ⟨rest, notes', hq, hrest'⟩
  · exact .inr ⟨_, span, v, notes'', hq, hspan, hv, hrest⟩

end SecretScan.Pattern
