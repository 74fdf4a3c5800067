import SecretScan.Regex.Spot
import Std.Data.HashSet

/-!
# Matching

A regular expression is matched by trying: at each place the alternatives are taken in their order,
and the first way through the whole expression wins. `Node.run` is written with a continuation: it
passes each place where the node can end to `k`, which tries what comes after it.

A look-behind is matched backwards: sequences run from right to left and characters are taken from
the text before the place.

A repetition does not end twice at one place. Where what follows has failed once, it is not tried
again, and so `DeadEnds` go along with every attempt. Failing is final only as long as what follows
reads nothing but the text: therefore no repetition is watched that a back reference may follow,
and none inside a repetition that counts its rounds.
-/

namespace SecretScan.Regex

/-- The address of a node in its expression: the turns taken from the root, the last one first. -/
abbrev Address := List Nat

/-- The ends of repetitions that have been tried in vain: which repetition, and the offset. -/
abbrev DeadEnds := Std.HashSet (Address × Nat)

/-- A try to match. It knows the dead ends found before it and adds to them. -/
abbrev Attempt := DeadEnds → Option Spot × DeadEnds

/-- What comes after a node: the try to match the rest from a place on. -/
abbrev Continuation := Spot → Attempt

/-- One round of a repetition, given what to do next. -/
abbrev Round := Spot → Continuation → Attempt

namespace Attempt

/-- The try that fails. -/
@[inline] def fail : Attempt := fun dead => (none, dead)

/-- The try that succeeds at once; as a continuation it asks for nothing more. -/
@[inline] def stop (s : Spot) : Attempt := fun dead => (some s, dead)

/-- The second try, if the first one fails. -/
@[inline] def orElse (a b : Attempt) : Attempt := fun dead =>
  match a dead with
  | (some t, dead) => (some t, dead)
  | (none, dead) => b dead

/-- Goes on from the place that `a` finds. Other places where `a` could succeed are given up. -/
@[inline] def andThen (a : Attempt) (k : Continuation) : Attempt := fun dead =>
  match a dead with
  | (some t, dead) => k t dead
  | (none, dead) => (none, dead)

/-- Goes on from a place, if there is one. -/
@[inline] def along (s : Option Spot) (k : Continuation) : Attempt :=
  match s with
  | some t => k t
  | none => fail

end Attempt

/-- Where a node stands, as far as dead ends are concerned. -/
structure Site where
  /-- The address of the node. -/
  address : Address
  /-- Whether a back reference may be matched after the node, in the same round of the repetition
  around it or, where there is none, in the rest of the expression. -/
  referred : Bool

namespace Site

/-- The site of part `turn` of a node. -/
def part (site : Site) (turn : Nat) : Site :=
  { site with address := turn :: site.address }

/-- The site of the part that comes first, where `later` tells whether the other part refers
back. -/
def first (site : Site) (turn : Nat) (later : Bool) : Site :=
  ⟨turn :: site.address, site.referred || later⟩

/-- The site of a part after which nothing is matched in the same round. -/
def inside (site : Site) : Site :=
  ⟨0 :: site.address, false⟩

end Site

/-- Goes on with `k` where a repetition ends, unless that has failed at the place before. -/
def leave (site : Option Site) (k : Continuation) : Continuation := fun s dead =>
  match site with
  | some ⟨address, false⟩ =>
    if dead.contains (address, s.pos) then (none, dead)
    else
      match k s dead with
      | (some t, dead) => (some t, dead)
      | (none, dead) => (none, dead.insert (address, s.pos))
  | _ => k s dead

/-- `n` rounds, one after the other. -/
def mandatoryRounds (round : Round) : Nat → Spot → Continuation → Attempt
  | 0, s, k => k s
  | n + 1, s, k => round s fun t => mandatoryRounds round n t k

/-- Whether another round is allowed after `count` rounds. -/
def allowed (most : Option Nat) (count : Nat) : Bool :=
  most.all (count < ·)

/-- Rounds as long as possible, after `count` of them. A round that settles nothing new is the last
one. `fuel` is more than the number of rounds that settle something. -/
def greedyRounds (round : Round) (most : Option Nat) (k : Continuation) :
    Nat → Nat → Spot → Attempt
  | 0, _, s => k s
  | fuel + 1, count, s =>
    let longer :=
      if allowed most count then
        round s fun t =>
          if s.settled t then k t else greedyRounds round most k fuel (count + 1) t
      else .fail
    longer.orElse (k s)

/-- Rounds as few as possible, after `count` of them. -/
def lazyRounds (round : Round) (most : Option Nat) (k : Continuation) :
    Nat → Nat → Spot → Attempt
  | 0, _, s => k s
  | fuel + 1, count, s =>
    let longer :=
      if allowed most count then
        round s fun t =>
          if s.settled t then k t else lazyRounds round most k fuel (count + 1) t
      else .fail
    (k s).orElse longer

/-- The number of a group, by number or by name. -/
def groupNumber? (names : List (Text × Nat)) : GroupRef → Option Nat
  | .number n => some n
  | .name name => names.lookup name

/-- What stays the same while an expression is matched against a text. -/
structure Course where
  /-- The numbers of the named groups. -/
  names : List (Text × Nat)
  /-- The groups that the expression refers back to. -/
  referred : List Nat
  /-- The number of characters of the text. -/
  size : Nat

namespace Course

/-- More than the number of optional rounds that can settle something: each one moves on, or it
changes what a group that counts has matched. -/
def fuel (course : Course) : Nat :=
  (course.size + 1) * (course.referred.length + 1)

end Course

/-- Matches a node at a place, forwards or backwards, and then what `k` stands for. `site` is where
the node stands, unless repetitions in it are not watched. -/
def Node.run (course : Course) : Node → Bool → Option Site → Spot → Continuation → Attempt
  | .empty, _, _, s, k => k s
  | .chars c, back, _, s, k => .along (if back then s.back? c else s.ahead? c) k
  | .seq a b, back, site, s, k =>
    if back then
      b.run course back (site.map fun site => site.first 1 a.refers) s fun t =>
        a.run course back (site.map (·.part 0)) t k
    else
      a.run course back (site.map fun site => site.first 0 b.refers) s fun t =>
        b.run course back (site.map (·.part 1)) t k
  | .alt a b, back, site, s, k =>
    .orElse (a.run course back (site.map (·.part 0)) s k)
      (b.run course back (site.map (·.part 1)) s k)
  | .capture group body, back, site, s, k =>
    body.run course back site s fun t =>
      k (s.remember t group (course.referred.contains group))
  | .backref ref ignoreCase, back, _, s, k =>
    match (groupNumber? course.names ref).bind fun group => s.captures.lookup group with
    | some found => .along (s.past? back ignoreCase found.text) k
    | none => .fail
  | .rep body least most greed, back, site, s, k =>
    let watched := least ≤ 1 && most.isNone
    let round : Round := body.run course back (if watched then site.map (·.inside) else none)
    let most := most.map (· - least)
    match greed with
    | .greedy =>
      mandatoryRounds round least s (greedyRounds round most (leave site k) course.fuel 0)
    | .lazy =>
      mandatoryRounds round least s (lazyRounds round most (leave site k) course.fuel 0)
    | .possessive =>
      .andThen (mandatoryRounds round least s (greedyRounds round most .stop course.fuel 0)) k
  | .anchor a, _, _, s, k => if s.satisfies a then k s else .fail
  | .look behind positive body, _, site, s, k => fun dead =>
    match body.run course behind (site.map (·.inside)) s .stop dead with
    | (some t, dead) =>
      if positive then k { s with captures := t.captures, changes := t.changes } dead
      else (none, dead)
    | (none, dead) => if positive then (none, dead) else k s dead
  | .atomic body, back, site, s, k =>
    .andThen (body.run course back (site.map (·.inside)) s .stop) k

/-- The groups that the program refers back to. -/
def Program.referred (p : Program) : List Nat :=
  p.node.refs.filterMap (groupNumber? p.names)

/-- The span of the first match that begins at or after the place `before`, `after`. Dead ends stay
dead from one beginning to the next. -/
def Program.searchAt (p : Program) (course : Course) (site : Option Site) (before : Text)
    (pos : Nat) : Text → DeadEnds → Option (Nat × Nat)
  | [], dead =>
    (p.node.run course false site ⟨before, [], pos, [], 0⟩ .stop dead).1.map fun t => (pos, t.pos)
  | c :: after, dead =>
    match p.node.run course false site ⟨before, c :: after, pos, [], 0⟩ .stop dead with
    | (some t, _) => some (pos, t.pos)
    | (none, dead) => p.searchAt course site (c :: before) (pos + 1) after dead

/-- The span of the first match in `content` that begins at or after offset `pos`. Where nothing
refers back no end can be tried twice with another outcome, and none is watched. -/
def Program.search? (p : Program) (content : Text) (pos : Nat) : Option (Nat × Nat) :=
  let referred := p.referred
  let course : Course := ⟨p.names, referred, content.length⟩
  let site : Option Site := if referred.isEmpty then none else some ⟨[], false⟩
  p.searchAt course site (content.take pos).reverse pos (content.drop pos) ∅

end SecretScan.Regex
