import SecretScan.Proofs.Pattern.Mode

/-!
# Jumping

A jump leaves what the walk has noted as it was: where a literal `]` may stand in the class opened
last, and where the named item opened last is closed. These places belong to the text read before,
and they may lie before, at or behind the place where the walk is put down. They are never looked
at: outside any class nothing asks for them, and the next `[` notes its own place first, as the next
named item does.

`Walk.Alike` says that of two walks, whatever they have noted. Everything that can be done with a
walk keeps it and yields the same token on both sides (`Walk.Alike.act`), so a walk that is put down
somewhere yields what one that begins there does (`jump_forgets`).
-/

namespace SecretScan.Pattern

/-- What can be done with a walk. -/
inductive Move where
  /-- Taking the next character. -/
  | step
  /-- Moving to an offset. -/
  | jump (pos : Nat)
deriving DecidableEq, Repr

namespace Walk

/-- Makes a move: the token that comes of it, if there is one, and the walk after it. At the end of
the text a step changes nothing. -/
def act (w : Walk) : Move → Option Token × Walk
  | .step =>
    match w.step with
    | some (token, next) => (some token, next)
    | none => (none, w)
  | .jump pos => (none, w.jump pos)

/-- The walk after some moves. -/
def after (w : Walk) : List Move → Walk
  | [] => w
  | move :: moves => (w.act move).2.after moves

/-- What comes of each of some moves. -/
def yields (w : Walk) : List Move → List (Option Token)
  | [] => []
  | move :: moves => (w.act move).1 :: (w.act move).2.yields moves

variable {w w' : Walk}

/-- No move changes the text. -/
theorem act_text (w : Walk) (move : Move) : (w.act move).2.text = w.text := by
  cases move with
  | jump pos => rfl
  | step =>
      cases h : w.rest with
      | nil => rw [act, step_of_rest_nil h]
      | cons c s =>
          rw [act, step_of_rest_cons h]
          exact stepOn_text w c

theorem after_text (w : Walk) (moves : List Move) : (w.after moves).text = w.text := by
  induction moves generalizing w with
  | nil => rfl
  | cons move moves ih => exact (ih _).trans (act_text w move)

/-! ## Walks that differ in what they have noted -/

/-- Two walks stand at one place of one text, in one mode. They may have noted different places as
far as the mode does not say where these are. -/
structure Alike (w w' : Walk) : Prop where
  text : w.text = w'.text
  pos : w.pos = w'.pos
  mode : ∃ m, w.Is m ∧ w'.Is m

namespace Alike

theorem rest (h : w.Alike w') : w.rest = w'.rest := by
  rw [Walk.rest, Walk.rest, h.text, h.pos]

/-- A walk that is put down is like any other that is put down there. -/
theorem jump (htext : w.text = w'.text) (pos : Nat) : (w.jump pos).Alike (w'.jump pos) where
  text := htext
  pos := rfl
  mode := ⟨.outside, jump_is w pos, jump_is w' pos⟩

/-- **Every move keeps walks alike**, and yields the same token. -/
theorem act (h : w.Alike w') (move : Move) :
    (w.act move).1 = (w'.act move).1 ∧ (w.act move).2.Alike (w'.act move).2 := by
  cases move with
  | jump pos => exact ⟨rfl, .jump h.text pos⟩
  | step =>
      cases hr : w.rest with
      | nil =>
          rw [Walk.act, Walk.act, step_of_rest_nil hr, step_of_rest_nil (h.rest ▸ hr)]
          exact ⟨rfl, h⟩
      | cons c s =>
          have hr' : w'.rest = c :: s := h.rest ▸ hr
          obtain ⟨m, hm, hm'⟩ := h.mode
          -- the mode decides both the kind of the character and the mode behind it
          obtain ⟨hkind, hnext⟩ := hm.stepOn hr
          obtain ⟨hkind', hnext'⟩ := hm'.stepOn hr'
          rw [Walk.act, Walk.act, step_of_rest_cons hr, step_of_rest_cons hr']
          refine ⟨?_, ?_, ?_, _, hnext, hnext'⟩
          · rw [h.pos, hkind, hkind', hm.inClass, hm'.inClass]
          · exact (stepOn_text w c).trans (h.text.trans (stepOn_text w' c).symm)
          · rw [stepOn_pos, stepOn_pos, h.pos]

theorem yields (h : w.Alike w') (moves : List Move) : w.yields moves = w'.yields moves := by
  induction moves generalizing w w' with
  | nil => rfl
  | cons move moves ih =>
      obtain ⟨hfirst, hnext⟩ := h.act move
      rw [Walk.yields, Walk.yields, hfirst, ih hnext]

theorem tokens (h : w.Alike w') : w.tokens = w'.tokens := by
  obtain ⟨m, hm, hm'⟩ := h.mode
  rw [hm.tokens_eq, hm'.tokens_eq, h.pos, h.rest]

end Alike

/--
**A jump forgets the past.**

Let a walk take any moves from anywhere in a text and then be put down at an offset. Its tokens from
then on are those of a walk that begins at this offset, and so is whatever comes of further moves,
although the places that it has noted are still those from before.
-/
theorem jump_forgets (text : Text) (pos : Nat) (moves : List Move) (p : Nat) :
    let past := (start text pos).after moves
    (past.jump p).tokens = (start text p).tokens
      ∧ (∀ later, (past.jump p).yields later = (start text p).yields later)
      ∧ (past.jump p).literalClose = past.literalClose
      ∧ (past.jump p).itemClose = past.itemClose := by
  intro past
  have htext : past.text = text := after_text (start text pos) moves
  -- a walk that begins somewhere is like one that is put down there
  have halike : (past.jump p).Alike (start text p) :=
    ⟨htext, rfl, .outside, jump_is past p, start_is text p⟩
  exact ⟨halike.tokens, halike.yields, rfl, rfl⟩

/-- The place noted before the jump is that of a `]` which closes a class opened after it. -/
example :
    let past := (start "[[]x]".toList 1).after [.step, .jump 0]
    past.literalClose = some 2
      ∧ past.tokens.map Token.kind = [.classOpen, .member, .classClose, .char, .char] := by
  decide

end Walk

end SecretScan.Pattern
