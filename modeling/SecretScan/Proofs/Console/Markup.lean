import SecretScan.Console.Markup
import SecretScan.Proofs.Failure
import SecretScan.Proofs.Pattern.Opener
import SecretScan.Proofs.Text.Line

/-!
# What markup shows

Markup is read piece by piece, and the pieces carry their positions for the sake of error messages.
What is shown does not depend on positions: `Reads` says it with one rule for each thing that can
stand at the front of a text. A tag is left out and remembered; half of the backslashes before it
stay, and if one is left over, the tag stays too; of a backslash before another square bracket the
bracket stays; everything else is shown as it is. Every text is read in some way (`exists_reads`),
and it is shown unless one of its tags ends nothing (`shown_eq_ok_iff`, with `Closes`).

So a text is shown as it is exactly if there is no tag in it and no backslash before a square
bracket (`shown_eq_self_iff`).
-/

namespace SecretScan.Markup

/-! ## Tags -/

/-- What stands in the square brackets of a tag. -/
structure IsTag (inner : Text) : Prop where
  /-- It begins like a tag. -/
  opens : ∃ c ∈ inner.head?, opensTag c = true
  /-- It holds no square bracket. -/
  noBracket : ∀ c ∈ inner, c ≠ ']' ∧ c ≠ '['

/-- A tag with some backslashes before it. -/
def mark (slashes : Nat) (inner : Text) : Text :=
  List.replicate slashes '\\' ++ '[' :: (inner ++ [']'])

/-- No tag begins a text, not even behind backslashes. -/
def NoMark (t : Text) : Prop :=
  ∀ slashes inner after, IsTag inner → t ≠ mark slashes inner ++ after

theorem mark_append (slashes : Nat) (inner after : Text) :
    mark slashes inner ++ after
      = List.replicate slashes '\\' ++ '[' :: (inner ++ ']' :: after) := by
  simp [mark]

theorem length_mark (slashes : Nat) (inner : Text) :
    (mark slashes inner).length = slashes + inner.length + 2 := by
  simp [mark]
  omega

theorem ne_bracket_of_opensTag {c : Char} (h : opensTag c = true) : c ≠ ']' ∧ c ≠ '[' :=
  ⟨fun e => absurd (e ▸ h) (by decide), fun e => absurd (e ▸ h) (by decide)⟩

theorem tagAt?_eq_some_iff {t inner : Text} :
    tagAt? t = some inner ↔ IsTag inner ∧ ∃ after, t = '[' :: (inner ++ ']' :: after) := by
  constructor
  · intro h
    unfold tagAt? at h
    split at h
    · next c s =>
        split at h
        · next hopens =>
            dsimp only at h
            split at h
            · next hclose =>
                obtain rfl := Option.some.inj h
                have hdrop := List.drop_eq_getElem?_toList_append (l := c :: s)
                  (i := ((c :: s).takeWhile fun c => c ≠ ']' && c ≠ '[').length)
                rw [hclose] at hdrop
                refine ⟨⟨⟨c, ?_, hopens⟩, fun d hd => ?_⟩, _,
                  congrArg _ (Pattern.eq_takeWhile_append hdrop)⟩
                · rw [List.takeWhile_cons_of_pos (by simpa using ne_bracket_of_opensTag hopens)]
                  rfl
                · simpa using List.mem_takeWhile_imp hd
            · cases h
        · cases h
    · cases h
  · rintro ⟨⟨⟨c, hc, hopens⟩, hno⟩, after, rfl⟩
    cases inner with
    | nil => cases hc
    | cons d inner =>
        obtain rfl := Option.some.inj hc
        have hrun : (d :: (inner ++ ']' :: after)).takeWhile (fun c => c ≠ ']' && c ≠ '[')
            = d :: inner :=
          Pattern.takeWhile_append_cons (s := d :: inner)
            (fun c hc => by simpa using hno c hc) (by decide) after
        have hclose : (d :: (inner ++ ']' :: after))[(d :: inner).length]? = some ']' := by
          simp
        rw [List.cons_append, tagAt?, if_pos hopens, hrun]
        exact if_pos hclose

/-- The pieces that a tag with backslashes before it makes up. -/
def markPieces (position slashes : Nat) (inner : Text) : List Piece :=
  .literal (List.replicate (slashes / 2) '\\')
    :: if slashes % 2 = 0 then [.tag inner (position + slashes)]
      else [.literal ('[' :: inner ++ [']'])]

theorem markAt?_mark {inner : Text} (h : IsTag inner) (position slashes : Nat) (after : Text) :
    markAt? position (mark slashes inner ++ after)
      = some (markPieces position slashes inner, slashes + inner.length + 2) := by
  have hrun : (mark slashes inner ++ after).takeWhile (· = '\\')
      = List.replicate slashes '\\' := by
    rw [mark_append]
    exact Pattern.takeWhile_append_cons (fun c hc => by simpa using (List.mem_replicate.mp hc).2)
      (by decide) _
  have hdrop : (mark slashes inner ++ after).drop slashes = '[' :: (inner ++ ']' :: after) := by
    rw [mark_append, List.drop_left' (List.length_replicate ..)]
  have htag : tagAt? ('[' :: (inner ++ ']' :: after)) = some inner :=
    tagAt?_eq_some_iff.mpr ⟨h, after, rfl⟩
  rw [markAt?, hrun, List.length_replicate, hdrop, htag, Option.map_some, markPieces]
  by_cases heven : slashes % 2 = 0 <;> simp [heven]

theorem markAt?_of_noMark {t : Text} (h : NoMark t) (position : Nat) :
    markAt? position t = none := by
  rw [markAt?, Option.map_eq_none_iff, Option.eq_none_iff_forall_ne_some]
  intro inner hinner
  obtain ⟨htag, after, hafter⟩ := tagAt?_eq_some_iff.mp hinner
  have hrun : t.takeWhile (· = '\\')
      = List.replicate (t.takeWhile (· = '\\')).length '\\' :=
    List.eq_replicate_of_mem fun c hc => by simpa using List.mem_takeWhile_imp hc
  refine h (t.takeWhile (· = '\\')).length inner after htag ?_
  rw [mark_append, ← hrun]
  exact Pattern.eq_takeWhile_append hafter

/-! ## Pieces -/

theorem piecesFrom_skip (position skipped : Nat) (t : Text) :
    piecesFrom position skipped t = piecesFrom (position + skipped) 0 (t.drop skipped) := by
  induction t generalizing position skipped with
  | nil => cases skipped <;> rfl
  | cons c t ih =>
      cases skipped with
      | zero => rfl
      | succ skipped =>
          rw [piecesFrom, if_pos (Nat.succ_pos _), Nat.add_sub_cancel, ih, List.drop_succ_cons]
          congr 1
          omega

theorem piecesFrom_mark {inner : Text} (h : IsTag inner) (position slashes : Nat) (after : Text) :
    piecesFrom position 0 (mark slashes inner ++ after)
      = markPieces position slashes inner
        ++ piecesFrom (position + (slashes + inner.length + 2)) 0 after := by
  have hmark := markAt?_mark h position slashes after
  have hlength : (mark slashes inner).length = slashes + inner.length + 1 + 1 := length_mark ..
  cases hm : mark slashes inner with
  | nil => rw [hm] at hlength; cases hlength
  | cons c t =>
      rw [hm] at hmark hlength
      have ht : (t ++ after).drop (slashes + inner.length + 1) = after :=
        List.drop_left' (Nat.succ.inj hlength)
      rw [List.cons_append] at hmark ⊢
      rw [piecesFrom, if_neg (Nat.lt_irrefl 0), hmark]
      dsimp only
      rw [piecesFrom_skip, Nat.add_sub_cancel (m := 1), ht]
      congr 2
      omega

theorem piecesFrom_char {c : Char} {t : Text} (h : NoMark (c :: t)) (position : Nat) :
    piecesFrom position 0 (c :: t) = Piece.before c (piecesFrom (position + 1) 0 t) := by
  rw [piecesFrom, if_neg (Nat.lt_irrefl 0), markAt?_of_noMark h]

/-- Only a backslash before a square bracket is left out. -/
theorem unescape_cons {c : Char} {t : Text} (h : ¬ (c = '\\' ∧ t.head? = some '[')) :
    unescape (c :: t) = c :: unescape t := by
  rw [unescape]
  rintro t rfl rfl
  exact h ⟨rfl, rfl⟩

variable {opened : List Text} {pieces : List Piece} {c : Char}

theorem textOf_before_bracket :
    textOf opened (Piece.before '\\' (Piece.before '[' pieces))
      = textOf opened (Piece.before '[' pieces) := by
  cases pieces with
  | nil => rfl
  | cons piece pieces => cases piece <;> rfl

/-- A character is shown as it is, unless it keeps a square bracket behind it from being read. -/
theorem textOf_before (h : c = '\\' → ∀ t rest, pieces = .text t :: rest → t.head? ≠ some '[') :
    textOf opened (Piece.before c pieces) = (textOf opened pieces).map (c :: ·) := by
  have hcons (t : Text) (rest : List Piece) (ht : ¬ (c = '\\' ∧ t.head? = some '[')) :
      textOf opened (.text (c :: t) :: rest)
        = (textOf opened rest).map (c :: unescape t ++ ·) := by
    rw [textOf, unescape_cons ht]
  cases pieces with
  | nil => exact hcons [] [] (by simp)
  | cons piece pieces =>
      cases piece with
      | text t =>
          rw [Piece.before, hcons t pieces fun ht => h ht.1 t pieces rfl ht.2, textOf]
          cases textOf opened pieces <;> rfl
      | literal t => exact hcons [] _ (by simp)
      | tag inner position => exact hcons [] _ (by simp)

/-- Ordinary text in front of the pieces is at the front of what is read. -/
theorem head?_of_piecesFrom {position : Nat} {t u : Text} {rest : List Piece}
    (h : piecesFrom position 0 t = .text u :: rest) : u.head? = t.head? := by
  by_cases hm : NoMark t
  · cases t with
    | nil => cases h
    | cons c t =>
        rw [piecesFrom_char hm] at h
        cases hp : piecesFrom (position + 1) 0 t with
        | nil => rw [hp] at h; cases h; rfl
        | cons piece pieces => rw [hp] at h; cases piece <;> cases h <;> rfl
  · unfold NoMark at hm
    push Not at hm
    obtain ⟨slashes, inner, after, htag, rfl⟩ := hm
    rw [piecesFrom_mark htag] at h
    cases h

/-! ## Reading -/

/-- `Reads t out tags`: the text `t` shows `out`, if its tags, `tags`, make sense. -/
inductive Reads : Text → Text → List Text → Prop where
  | nil : Reads [] [] []
  /-- A tag is left out. Before it two backslashes stand for one. -/
  | tag {slashes : Nat} {inner after out : Text} {tags : List Text} :
      IsTag inner → slashes % 2 = 0 → Reads after out tags →
      Reads (mark slashes inner ++ after) (List.replicate (slashes / 2) '\\' ++ out) (inner :: tags)
  /-- A backslash that is left over keeps the tag from being one. -/
  | literal {slashes : Nat} {inner after out : Text} {tags : List Text} :
      IsTag inner → slashes % 2 = 1 → Reads after out tags →
      Reads (mark slashes inner ++ after)
        (List.replicate (slashes / 2) '\\' ++ ('[' :: inner ++ [']']) ++ out) tags
  /-- Before a square bracket that begins no tag, a backslash is left out too. -/
  | bracket {t out : Text} {tags : List Text} :
      NoMark ('\\' :: '[' :: t) → Reads ('[' :: t) out tags → Reads ('\\' :: '[' :: t) out tags
  /-- All else is shown as it is. -/
  | char {c : Char} {t out : Text} {tags : List Text} :
      NoMark (c :: t) → ¬ (c = '\\' ∧ t.head? = some '[') → Reads t out tags →
      Reads (c :: t) (c :: out) tags

/-- `Closes opened tags`: with the tags `opened` open, the last one first, every closing tag among
`tags` ends one that is open. -/
inductive Closes : List Text → List Text → Prop where
  | nil {opened : List Text} : Closes opened []
  /-- A tag is opened. -/
  | opening {opened tags : List Text} {inner : Text} :
      inner.head? ≠ some '/' → Closes (nameOf (inner.before '=') :: opened) tags →
      Closes opened (inner :: tags)
  /-- A closing tag without a name ends the last one. -/
  | last {name closing inner : Text} {opened tags : List Text} :
      inner.before '=' = '/' :: closing → Text.trim closing = [] → Closes opened tags →
      Closes (name :: opened) (inner :: tags)
  /-- A closing tag with a name ends the last one of this name. -/
  | named {closing inner : Text} {opened tags : List Text} :
      inner.before '=' = '/' :: closing → Text.trim closing ≠ [] → nameOf closing ∈ opened →
      Closes (opened.erase (nameOf closing)) tags → Closes opened (inner :: tags)

variable {t out s : Text} {tags : List Text} {inner : Text}

theorem before_eq_slash_iff : (∃ closing, inner.before '=' = '/' :: closing) ↔
    inner.head? = some '/' := by
  cases inner with
  | nil => simp [Text.before]
  | cons c inner =>
      by_cases h : c = '='
      · simp [Text.before, h]
      · simp [Text.before, h]

/-- **The tags that a tag leaves open**, where it makes sense. -/
theorem closes_cons_iff (position : Nat) :
    Closes opened (inner :: tags) ↔
      ∃ opened', follow opened inner position = .ok opened' ∧ Closes opened' tags := by
  constructor
  · intro h
    cases h with
    | opening hhead h =>
        refine ⟨_, ?_, h⟩
        unfold follow
        split
        · next closing hclosing => exact absurd (before_eq_slash_iff.mp ⟨closing, hclosing⟩) hhead
        · rfl
    | last hclosing hname h => exact ⟨_, by simp [follow, hclosing, hname], h⟩
    | named hclosing hname hopen h => exact ⟨_, by simp [follow, hclosing, hname, hopen], h⟩
  · rintro ⟨opened', hfollow, h⟩
    unfold follow at hfollow
    split at hfollow
    · next closing hclosing =>
        dsimp only at hfollow
        by_cases hname : Text.trim closing = []
        · rw [if_pos (by simp [hname])] at hfollow
          cases opened with
          | nil => cases hfollow
          | cons name opened =>
              obtain rfl := Except.ok.inj hfollow
              exact .last hclosing hname h
        · rw [if_neg (by simpa using hname)] at hfollow
          by_cases hopen : nameOf closing ∈ opened
          · rw [if_pos (by simpa using hopen)] at hfollow
            obtain rfl := Except.ok.inj hfollow
            exact .named hclosing hname hopen h
          · rw [if_neg (by simpa using hopen)] at hfollow
            cases hfollow
    · next hnot =>
        obtain rfl := Except.ok.inj hfollow
        refine .opening (fun hhead => ?_) h
        obtain ⟨closing, hclosing⟩ := before_eq_slash_iff.mpr hhead
        exact hnot closing hclosing

/-- What is read is shown if the tags make sense, and not otherwise. -/
theorem Reads.textOf_eq_ok_iff (h : Reads t out tags) (position : Nat) :
    textOf opened (piecesFrom position 0 t) = .ok s ↔ s = out ∧ Closes opened tags := by
  induction h generalizing position opened s with
  | nil => exact ⟨fun h => ⟨(Except.ok.inj h).symm, .nil⟩, fun h => congrArg _ h.1.symm⟩
  | @tag slashes inner after out tags htag heven _ ih =>
      rw [piecesFrom_mark htag, markPieces, if_pos heven, List.cons_append, List.singleton_append,
        textOf, textOf, map_eq_ok, closes_cons_iff (position + slashes)]
      simp only [bind_eq_ok, ih]
      constructor
      · rintro ⟨s, ⟨opened', hfollow, rfl, h⟩, rfl⟩
        exact ⟨rfl, opened', hfollow, h⟩
      · rintro ⟨rfl, opened', hfollow, h⟩
        exact ⟨out, ⟨opened', hfollow, rfl, h⟩, rfl⟩
  | @literal slashes inner after out tags htag hodd _ ih =>
      rw [piecesFrom_mark htag, markPieces, if_neg (by omega), List.cons_append,
        List.singleton_append, textOf, textOf, map_eq_ok]
      simp only [map_eq_ok, ih]
      constructor
      · rintro ⟨s, ⟨s, ⟨rfl, h⟩, rfl⟩, rfl⟩
        exact ⟨(List.append_assoc _ _ _).symm, h⟩
      · rintro ⟨rfl, h⟩
        exact ⟨_, ⟨out, ⟨rfl, h⟩, rfl⟩, (List.append_assoc _ _ _).symm⟩
  | @bracket t out tags hmark _ ih =>
      -- if the bracket began a tag, the backslash would belong to it
      have hrest : NoMark ('[' :: t) := by
        rintro (_ | slashes) inner after htag heq
        · exact hmark 1 inner after htag (congrArg ('\\' :: ·) heq)
        · cases heq
      have hih : textOf opened (piecesFrom (position + 1) 0 ('[' :: t)) = .ok s ↔
          s = out ∧ Closes opened tags := ih (position + 1)
      rw [piecesFrom_char hrest] at hih
      rw [piecesFrom_char hmark, piecesFrom_char hrest, textOf_before_bracket, hih]
  | @char c t out tags hmark hchar _ ih =>
      have hbefore : c = '\\' → ∀ u rest, piecesFrom (position + 1) 0 t = .text u :: rest →
          u.head? ≠ some '[' := by
        intro hc u rest hu hhead
        exact hchar ⟨hc, (head?_of_piecesFrom hu).symm.trans hhead⟩
      rw [piecesFrom_char hmark, textOf_before hbefore, map_eq_ok]
      simp only [ih]
      constructor
      · rintro ⟨_, ⟨rfl, hcloses⟩, rfl⟩
        exact ⟨rfl, hcloses⟩
      · rintro ⟨rfl, hcloses⟩
        exact ⟨out, ⟨rfl, hcloses⟩, rfl⟩

/-- Every text is read in some way. -/
theorem exists_reads (t : Text) : ∃ out tags, Reads t out tags := by
  by_cases hmark : NoMark t
  · match t with
    | [] => exact ⟨[], [], .nil⟩
    | c :: t =>
      obtain ⟨out, tags, h⟩ := exists_reads t
      by_cases hchar : c = '\\' ∧ t.head? = some '['
      · obtain ⟨rfl, hhead⟩ := hchar
        cases t with
        | nil => cases hhead
        | cons d t =>
            obtain rfl := Option.some.inj hhead
            exact ⟨out, tags, .bracket hmark h⟩
      · exact ⟨c :: out, tags, .char hmark hchar h⟩
  · unfold NoMark at hmark
    push Not at hmark
    obtain ⟨slashes, inner, after, htag, ht⟩ := hmark
    -- a tag is read as a whole, so the rest is shorter by more than a character
    have hshorter : after.length < t.length := by
      rw [ht, List.length_append, length_mark]
      omega
    obtain ⟨out, tags, h⟩ := exists_reads after
    rw [ht]
    rcases Nat.mod_two_eq_zero_or_one slashes with heven | hodd
    · exact ⟨_, _, .tag htag heven h⟩
    · exact ⟨_, _, .literal htag hodd h⟩
  termination_by t.length
  decreasing_by
    · exact Nat.lt_succ_self _
    · exact hshorter

/-- **A text is shown as it is read, unless one of its tags ends nothing.** -/
theorem shown_eq_ok_iff : shown t = .ok out ↔ ∃ tags, Reads t out tags ∧ Closes [] tags := by
  constructor
  · intro h
    obtain ⟨out', tags, hreads⟩ := exists_reads t
    obtain ⟨rfl, hcloses⟩ := (hreads.textOf_eq_ok_iff 0).mp h
    exact ⟨tags, hreads, hcloses⟩
  · rintro ⟨tags, hreads, hcloses⟩
    exact (hreads.textOf_eq_ok_iff 0).mpr ⟨rfl, hcloses⟩

/-! ## Text that is shown as it is -/

/-- Text in which nothing is read as markup. -/
structure IsPlain (t : Text) : Prop where
  /-- It holds no tag. -/
  noTag : ∀ before inner after, IsTag inner → t ≠ before ++ '[' :: (inner ++ ']' :: after)
  /-- It holds no backslash before a square bracket. -/
  noEscape : ¬ ['\\', '['] <:+: t

namespace IsPlain

theorem noMark (h : IsPlain t) : NoMark t := by
  rintro slashes inner after htag rfl
  exact h.noTag _ inner after htag (mark_append slashes inner after)

theorem of_cons {c : Char} (h : IsPlain (c :: t)) : IsPlain t where
  noTag before inner after htag := by
    rintro rfl
    exact h.noTag (c :: before) inner after htag rfl
  noEscape hin := h.noEscape (List.infix_cons hin)

theorem cons {c : Char} (hmark : NoMark (c :: t)) (hchar : ¬ (c = '\\' ∧ t.head? = some '['))
    (h : IsPlain t) : IsPlain (c :: t) where
  noTag before inner after htag heq := by
    cases before with
    | nil => exact hmark 0 inner after htag (heq.trans (mark_append 0 inner after).symm)
    | cons d before => exact h.noTag before inner after htag (List.cons.inj heq).2
  noEscape hin := by
    rcases List.infix_cons_iff.mp hin with ⟨rest, heq⟩ | hin
    · obtain ⟨hc, ht⟩ := List.cons.inj heq
      exact hchar ⟨hc.symm, by rw [← ht]; rfl⟩
    · exact h.noEscape hin

theorem reads (h : IsPlain t) : Reads t t [] := by
  induction t with
  | nil => exact .nil
  | cons c t ih =>
      refine .char h.noMark ?_ (ih h.of_cons)
      rintro ⟨rfl, hhead⟩
      cases t with
      | nil => cases hhead
      | cons d t =>
          obtain rfl := Option.some.inj hhead
          exact h.noEscape (List.prefix_append _ t).isInfix

end IsPlain

/-- How many backslashes and opening square brackets a text holds. -/
def signs (t : Text) : Nat :=
  t.countP fun c => c = '\\' || c = '['

theorem signs_append (s t : Text) : signs (s ++ t) = signs s + signs t :=
  List.countP_append

theorem signs_cons (c : Char) (t : Text) : signs (c :: t) = signs [c] + signs t :=
  signs_append [c] t

theorem signs_slashes (n : Nat) : signs (List.replicate n '\\') = n := by
  simp [signs, List.countP_replicate]

theorem signs_brackets (inner : Text) : signs ('[' :: (inner ++ [']'])) = signs inner + 1 := by
  simp [signs, List.countP_append]

theorem signs_mark (slashes : Nat) (inner : Text) :
    signs (mark slashes inner) = slashes + (signs inner + 1) := by
  rw [mark, signs_append, signs_slashes, signs_brackets]

/-- Reading adds no such character, and takes none away from plain text only. -/
theorem Reads.signs_le (h : Reads t out tags) :
    signs out ≤ signs t ∧ (signs out = signs t → IsPlain t) := by
  induction h with
  | nil => exact ⟨Nat.le_refl 0, fun _ => ⟨by simp, by simp⟩⟩
  | @tag slashes inner after out tags htag heven _ ih =>
      rw [signs_append, signs_append, signs_mark, signs_slashes]
      exact ⟨by omega, fun h => by omega⟩
  | @literal slashes inner after out tags htag hodd _ ih =>
      rw [List.cons_append, signs_append (mark slashes inner), signs_append (_ ++ _),
        signs_append (List.replicate _ _), signs_mark, signs_slashes, signs_brackets]
      exact ⟨by omega, fun h => by omega⟩
  | @bracket t out tags _ _ ih =>
      have hslash : signs ['\\'] = 1 := rfl
      rw [signs_cons]
      exact ⟨by omega, fun h => by omega⟩
  | @char c t out tags hmark hchar _ ih =>
      rw [signs_cons c out, signs_cons c t]
      exact ⟨by omega, fun h => .cons hmark hchar (ih.2 (Nat.add_left_cancel h))⟩

/-- **Text is shown as it is exactly if nothing in it is markup.** -/
theorem shown_eq_self_iff : shown t = .ok t ↔ IsPlain t := by
  rw [shown_eq_ok_iff]
  constructor
  · rintro ⟨tags, hreads, -⟩
    exact hreads.signs_le.2 rfl
  · intro h
    exact ⟨[], h.reads, .nil⟩

/-! ## Text in front of markup -/

/-- `Leads lead u`: before any markup, `lead` shows `u` and leaves no tag open. -/
def Leads (lead u : Text) : Prop :=
  ∀ t out tags, Reads t out tags →
    ∃ tags', Reads (lead ++ t) (u ++ out) tags' ∧ ∀ opened, Closes opened tags' ↔ Closes opened tags

namespace Leads

variable {lead lead' u u' : Text}

theorem append (h : Leads lead u) (h' : Leads lead' u') : Leads (lead ++ lead') (u ++ u') := by
  intro t out tags hreads
  obtain ⟨tags', hreads', hcloses'⟩ := h' _ _ _ hreads
  obtain ⟨tags'', hreads'', hcloses''⟩ := h _ _ _ hreads'
  rw [List.append_assoc, List.append_assoc]
  exact ⟨tags'', hreads'', fun opened => (hcloses'' opened).trans (hcloses' opened)⟩

/-- **What is shown behind a lead is what is shown without it.** -/
theorem shown_eq_ok_iff (h : Leads lead u) :
    shown (lead ++ t) = .ok out ↔ ∃ rest, shown t = .ok rest ∧ out = u ++ rest := by
  obtain ⟨rest, tags, hreads⟩ := exists_reads t
  obtain ⟨tags', hreads', hcloses⟩ := h _ _ _ hreads
  have hrest {s : Text} : shown t = .ok s ↔ s = rest ∧ Closes [] tags := hreads.textOf_eq_ok_iff 0
  have hout : shown (lead ++ t) = .ok out ↔ out = u ++ rest ∧ Closes [] tags' :=
    hreads'.textOf_eq_ok_iff 0
  rw [hout, hcloses]
  simp only [hrest]
  constructor
  · rintro ⟨rfl, h⟩
    exact ⟨rest, ⟨rfl, h⟩, rfl⟩
  · rintro ⟨_, ⟨rfl, h⟩, rfl⟩
    exact ⟨rfl, h⟩

end Leads

/-- Text without square brackets and backslashes. -/
def IsInert (u : Text) : Prop :=
  ∀ c ∈ u, c ≠ '\\' ∧ c ≠ '['

instance decidableIsInert (u : Text) : Decidable (IsInert u) :=
  List.decidableBAll (fun c => c ≠ '\\' ∧ c ≠ '[') u

theorem IsInert.isPlain (h : IsInert t) : IsPlain t where
  noTag before inner after _ heq := (h '[' (heq ▸ by simp)).2 rfl
  noEscape hin := (h '[' (hin.subset (by simp))).2 rfl

/-- A tag begins with a square bracket, or with a backslash before one. -/
theorem noMark_cons {c : Char} (h : c ≠ '\\' ∧ c ≠ '[') (t : Text) : NoMark (c :: t) := by
  rintro (_ | slashes) inner after - heq
  · exact h.2 (List.cons.inj heq).1
  · exact h.1 (List.cons.inj heq).1

theorem Reads.run {u : Text} (hu : IsInert u) (h : Reads t out tags) :
    Reads (u ++ t) (u ++ out) tags := by
  induction u with
  | nil => exact h
  | cons c u ih =>
      have hc := hu c List.mem_cons_self
      exact .char (noMark_cons hc _) (fun e => hc.1 e.1)
        (ih fun d hd => hu d (List.mem_cons_of_mem c hd))

theorem leads_of_isInert {u : Text} (hu : IsInert u) : Leads u u := fun _ _ _ h =>
  ⟨_, h.run hu, fun _ => Iff.rfl⟩

/-- The name of a style: lower-case letters and spaces, a letter first. -/
structure IsStyle (style : Text) : Prop where
  /-- The first character is a letter. -/
  letter : ∃ c ∈ style.head?, 'a' ≤ c ∧ c ≤ 'z'
  /-- All characters are letters or spaces. -/
  word : ∀ c ∈ style, c = ' ' ∨ 'a' ≤ c ∧ c ≤ 'z'

instance decidableIsStyle (style : Text) : Decidable (IsStyle style) :=
  decidable_of_iff
    (style.head?.any (fun c => 'a' ≤ c && c ≤ 'z') = true
      ∧ style.all (fun c => c = ' ' || 'a' ≤ c && c ≤ 'z') = true)
    (by
      have hletter : style.head?.any (fun c => 'a' ≤ c && c ≤ 'z') = true ↔
          ∃ c ∈ style.head?, 'a' ≤ c ∧ c ≤ 'z' := by
        cases style.head? <;> simp
      have hword : style.all (fun c => c = ' ' || 'a' ≤ c && c ≤ 'z') = true ↔
          ∀ c ∈ style, c = ' ' ∨ 'a' ≤ c ∧ c ≤ 'z' := by
        simp
      rw [hletter, hword]
      exact ⟨fun h => ⟨h.1, h.2⟩, fun h => ⟨h.letter, h.word⟩⟩)

/-- Text in a style. -/
def styled (style u : Text) : Text :=
  mark 0 style ++ (u ++ mark 0 ('/' :: style))

namespace IsStyle

variable {style : Text}

theorem notMem (h : IsStyle style) {c : Char} (hc : ¬ (c = ' ' ∨ 'a' ≤ c ∧ c ≤ 'z')) : c ∉ style :=
  fun hmem => hc (h.word c hmem)

theorem noBracket (h : IsStyle style) : ∀ c ∈ style, c ≠ ']' ∧ c ≠ '[' := fun _ hc =>
  ⟨fun e => h.notMem (by decide) (e ▸ hc), fun e => h.notMem (by decide) (e ▸ hc)⟩

theorem isTag (h : IsStyle style) : IsTag style where
  opens := by
    obtain ⟨c, hc, hletter⟩ := h.letter
    exact ⟨c, hc, by simp [opensTag, hletter]⟩
  noBracket := h.noBracket

theorem isTag_closing (h : IsStyle style) : IsTag ('/' :: style) where
  opens := ⟨'/', rfl, by decide⟩
  noBracket := List.forall_mem_cons.mpr ⟨by decide, h.noBracket⟩

theorem trim_ne_nil (h : IsStyle style) : Text.trim style ≠ [] := by
  obtain ⟨c, hc, hletter⟩ := h.letter
  have hblank : Text.isBlank c = false := by
    have hlow : 97 ≤ c.toNat := hletter.1
    have hhigh : c.toNat ≤ 122 := hletter.2
    simp [Text.isBlank, Text.inRanges, Text.blankRanges]
    omega
  cases style with
  | nil => cases hc
  | cons d style =>
      obtain rfl := Option.some.inj hc
      rw [Text.trim, Text.trimWhile, List.dropWhile_cons_of_neg (by simp [hblank]), ne_eq,
        List.reverse_eq_nil_iff, List.dropWhile_eq_nil_iff]
      intro hall
      have hblank' := hall d (List.mem_reverse.mpr List.mem_cons_self)
      rw [hblank] at hblank'
      cases hblank'

/-- A style is opened and closed again. -/
theorem closes_iff (h : IsStyle style) :
    Closes opened (style :: ('/' :: style) :: tags) ↔ Closes opened tags := by
  have hvalue : style.before '=' = style := Text.before_of_notMem (h.notMem (by decide))
  have hopen : follow opened style 0 = .ok (nameOf style :: opened) := by
    unfold follow
    rw [hvalue]
    split
    · exact absurd List.mem_cons_self (h.notMem (by decide))
    · rfl
  have hclose : follow (nameOf style :: opened) ('/' :: style) 0 = .ok opened := by
    have hslash : Text.before ('/' :: style) '=' = '/' :: style :=
      congrArg ('/' :: ·) hvalue
    simp [follow, hslash, h.trim_ne_nil]
  constructor
  · intro hcloses
    obtain ⟨opened', hfollow, hcloses⟩ := (closes_cons_iff 0).mp hcloses
    obtain rfl := Except.ok.inj (hopen.symm.trans hfollow)
    obtain ⟨opened', hfollow, hcloses⟩ := (closes_cons_iff 0).mp hcloses
    obtain rfl := Except.ok.inj (hclose.symm.trans hfollow)
    exact hcloses
  · intro hcloses
    exact (closes_cons_iff 0).mpr ⟨_, hopen, (closes_cons_iff 0).mpr ⟨_, hclose, hcloses⟩⟩

/-- **Before markup, text in a style is shown without the style.** -/
theorem leads (h : IsStyle style) {u : Text} (hu : IsInert u) : Leads (styled style u) u := by
  intro t out tags hreads
  have hclosing : Reads (mark 0 ('/' :: style) ++ t) out (('/' :: style) :: tags) :=
    .tag h.isTag_closing rfl hreads
  refine ⟨style :: ('/' :: style) :: tags, ?_, fun _ => h.closes_iff⟩
  rw [styled, List.append_assoc, List.append_assoc]
  exact .tag h.isTag rfl (hclosing.run hu)

end IsStyle

end SecretScan.Markup
