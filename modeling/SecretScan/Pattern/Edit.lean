import SecretScan.Pattern.Walk

/-!
# Editing a pattern in one pass

Every editing pass has one shape: walk the pattern, and at each place either copy the next
character or replace a whole span and go on behind it. A pass is given by its `Edit` rule. A rule
sees the walk, so it acts only where it wants to: most rules act at a parenthesis that is syntax.

A replacement may carry a note, and the pass returns the notes in order. That is how the passes
that remove flag markers report the flags.
-/

namespace SecretScan.Pattern

/-- What a pass does at one place. -/
inductive Edit (α : Type) where
  /-- Copies the next character. -/
  | keep
  /-- Writes `out` in place of the pattern up to offset `resume`, which lies ahead. -/
  | replace (out : Text) (resume : Nat) (note : α)
  /-- Writes `out` in place of the rest of the pattern. -/
  | stop (out : Text)

/-- Applies `rule` for at most `n` steps. -/
def Walk.edit {α : Type} (rule : Walk → Edit α) : Nat → Walk → Text × List α
  | 0, _ => ([], [])
  | n + 1, w =>
    match w.step with
    | none => ([], [])
    | some (token, next) =>
      match rule w with
      | .stop out => (out, [])
      | .replace out resume note =>
        let (text, notes) := Walk.edit rule n (w.jump resume)
        (out ++ text, note :: notes)
      | .keep =>
        let (text, notes) := Walk.edit rule n next
        (token.char :: text, notes)

/-- Applies `rule` along the whole pattern. Every step moves ahead, so there are at most as many
steps as characters. -/
def edit {α : Type} (rule : Walk → Edit α) (pattern : Text) : Text × List α :=
  (Walk.start pattern 0).edit rule pattern.length

end SecretScan.Pattern
