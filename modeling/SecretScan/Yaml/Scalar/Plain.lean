import SecretScan.Yaml.Place

/-!
# Plain scalars

A scalar without quotes ends before a colon or a comment that stands for itself, and inside brackets
before a bracket or a comma too. It may go on over several lines; a single line break counts as one
space.
-/

namespace SecretScan.Yaml

/-- Whether a plain scalar ends before `c`, where `t` comes next. -/
def endsPlain (inFlow : Bool) (c : Char) (t : Text) : Bool :=
  isBlankChar c || isBreak c
    || (c = ':' && (atGap t || (inFlow && endsOr (· ∈ ",[]\x7b\x7d".toList) t)))
    || (inFlow && c ∈ ",?[]\x7b\x7d".toList)

/-- The characters at the front of `t` that belong to a plain scalar. -/
def plainRun (inFlow : Bool) : Text → Text
  | [] => []
  | c :: t => if endsPlain inFlow c t then [] else c :: plainRun inFlow t

/-- What separates two runs of a plain scalar. -/
structure PlainGap where
  /-- What it stands for; nothing if the scalar ends here. -/
  text : Text
  /-- How many characters it takes. -/
  length : Nat
  /-- Whether it goes over the end of a line. -/
  broken : Bool

/-- The line breaks after a first one, and the spaces among them; nothing if a document begins or
ends here. -/
def plainBreaks : Text → Option Text × Nat
  | [] => (some [], 0)
  | c :: t =>
    if c = ' ' then
      let (breaks, n) := plainBreaks t
      (breaks, n + 1)
    else if isBreak c then
      if atSeparator t then (none, 1)
      else
        let (breaks, n) := plainBreaks t
        (breaks.map (keptBreak c :: ·), n + 1)
    else (some [], 0)

/-- The gap at the front of `t`. -/
def plainGap (t : Text) : PlainGap :=
  let spaces := t.takeWhile (· = ' ')
  match t.drop spaces.length with
  | [] => ⟨spaces, spaces.length, false⟩
  | c :: rest =>
    if !isBreak c then ⟨spaces, spaces.length, false⟩
    else if atSeparator rest then ⟨[], spaces.length + 1, true⟩
    else
      let (breaks, n) := plainBreaks rest
      let text := match breaks with
        | none => []
        | some breaks =>
          if keptBreak c ≠ '\n' then keptBreak c :: breaks
          else if breaks.isEmpty then [' '] else breaks
      ⟨text, spaces.length + 1 + n, true⟩

/-- A plain scalar, and what comes after it. -/
structure PlainScalar where
  /-- What it stands for. -/
  text : Text
  /-- Whether the gap after it goes over the end of a line. -/
  broken : Bool
  /-- The place after that gap. -/
  place : Place

/-- The part of a plain scalar from `p` on; `gap` has come before. -/
def plainFrom (inFlow : Bool) (indent : Nat) (gap : Text) (broken : Bool) (p : Place) :
    PlainScalar :=
  let run := plainRun inFlow p.rest
  if _h : run = [] then ⟨[], broken, p⟩
  else
    let afterRun := p.skip run.length
    let next := plainGap afterRun.rest
    let place := afterRun.skip next.length
    if next.text.isEmpty || place.rest.head? = some '#' || (!inFlow && place.column < indent) then
      ⟨gap ++ run, next.broken, place⟩
    else
      let more := plainFrom inFlow indent next.text next.broken place
      ⟨gap ++ run ++ more.text, more.broken, more.place⟩
termination_by p.rest.length
decreasing_by
  have hrest : p.rest ≠ [] := fun e => _h (by simp [run, e, plainRun])
  have hrun : 0 < (plainRun inFlow p.rest).length := List.length_pos_iff.2 _h
  have hlen : 0 < p.rest.length := List.length_pos_iff.2 hrest
  simp only [Place.rest_skip, List.length_drop]
  omega

/-- A plain scalar. Its further lines are indented by at least `indent`. -/
def plainScalar (inFlow : Bool) (indent : Nat) (p : Place) : PlainScalar :=
  plainFrom inFlow indent [] false p

end SecretScan.Yaml
