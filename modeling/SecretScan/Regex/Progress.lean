import SecretScan.Regex.Matching

/-!
# Where matches lie

A search that starts at an offset finds a span that begins at or after it and ends inside the text.
The reason is that matching only ever moves over characters of the text, and that outside
look-behinds it moves forwards: whatever a node hands to its continuation lies at or after the place
where the node began.
-/

namespace SecretScan.Regex

/-- The place lies in `content`. -/
def Spot.In (content : Text) (s : Spot) : Prop :=
  s.before.reverse ++ s.after = content ∧ s.pos = s.before.length

/-- Whatever a step does, it hands a place in `content` to its continuation, and one that is not
further left unless it matches backwards. -/
def Passes (content : Text) (back : Bool) (s : Spot) (step : Continuation → Attempt) : Prop :=
  ∀ k dead t, (step k dead).1 = some t →
    ∃ (u : Spot) (dead' : DeadEnds),
      u.In content ∧ (back = false → s.pos ≤ u.pos) ∧ (k u dead').1 = some t

namespace Spot

theorem In.pos_le {content : Text} {s : Spot} (h : s.In content) : s.pos ≤ content.length := by
  rw [h.2, ← h.1]
  simp

theorem ahead?_in {content : Text} {s t : Spot} {k : CharClass} (h : s.In content)
    (ht : s.ahead? k = some t) : t.In content ∧ s.pos ≤ t.pos := by
  unfold ahead? at ht
  split at ht
  · cases ht
  · next c rest hr =>
    split at ht
    · cases ht
      exact ⟨⟨by simpa [hr] using h.1, by simp [h.2]⟩, Nat.le_succ _⟩
    · cases ht

theorem back?_in {content : Text} {s t : Spot} {k : CharClass} (h : s.In content)
    (ht : s.back? k = some t) : t.In content := by
  unfold back? at ht
  split at ht
  · cases ht
  · next c rest hr =>
    split at ht
    · cases ht
      refine ⟨by simpa [hr] using h.1, ?_⟩
      have := h.2
      simp only [hr, List.length_cons] at this
      simp [this]
    · cases ht

/-- Moving over a text one character at a time stays in `content`. -/
theorem past?_in {content : Text} {back ignoreCase : Bool} {w : Text} {s t : Spot}
    (h : s.In content) (ht : s.past? back ignoreCase w = some t) :
    t.In content ∧ (back = false → s.pos ≤ t.pos) := by
  unfold past? at ht
  generalize (if back then w.reverse else w) = cs at ht
  induction cs generalizing s with
  | nil =>
    simp only [List.foldlM_nil, Option.pure_def, Option.some.injEq] at ht
    exact ht ▸ ⟨h, fun _ => Nat.le_refl _⟩
  | cons c cs ih =>
    simp only [List.foldlM_cons, Option.bind_eq_bind] at ht
    obtain ⟨u, hu, ht⟩ := Option.bind_eq_some_iff.1 ht
    cases back with
    | true =>
      obtain ⟨h1, _⟩ := ih (back?_in h hu) ht
      exact ⟨h1, nofun⟩
    | false =>
      obtain ⟨h1, h2⟩ := ahead?_in h hu
      obtain ⟨h3, h4⟩ := ih h1 ht
      exact ⟨h3, fun e => Nat.le_trans h2 (h4 e)⟩

end Spot

namespace Attempt

/-- The first of two tries succeeds, or the second one does. -/
theorem orElse_eq_some {a b : Attempt} {dead : DeadEnds} {t : Spot}
    (h : (a.orElse b dead).1 = some t) : (a dead).1 = some t ∨ ∃ dead', (b dead').1 = some t := by
  unfold orElse at h
  split at h
  · next heq => exact .inl (by rw [heq]; exact h)
  · exact .inr ⟨_, h⟩

/-- A try that goes on has found a place to go on from. -/
theorem andThen_eq_some {a : Attempt} {k : Continuation} {dead : DeadEnds} {t : Spot}
    (h : (a.andThen k dead).1 = some t) :
    ∃ u dead', (a dead).1 = some u ∧ (k u dead').1 = some t := by
  unfold andThen at h
  split at h
  · next u dead' heq => exact ⟨u, dead', by rw [heq], h⟩
  · cases h

theorem along_eq_some {s : Option Spot} {k : Continuation} {dead : DeadEnds} {t : Spot}
    (h : (along s k dead).1 = some t) : ∃ u, s = some u ∧ (k u dead).1 = some t := by
  unfold along at h
  split at h
  · exact ⟨_, rfl, h⟩
  · cases h

end Attempt

/-- Where a repetition ends, what follows goes on from that place or not at all. -/
theorem leave_eq_some {site : Option Site} {k : Continuation} {s t : Spot} {dead : DeadEnds}
    (h : (leave site k s dead).1 = some t) : (k s dead).1 = some t := by
  unfold leave at h
  split at h
  · split at h
    · cases h
    · split at h
      · next heq => rw [heq]; exact h
      · cases h
  · exact h

namespace Passes

variable {content : Text} {back : Bool}

/-- Going on from the place itself. -/
theorem stay {s : Spot} (hs : s.In content) {k : Continuation} {dead : DeadEnds} {t : Spot}
    (h : (k s dead).1 = some t) :
    ∃ (u : Spot) (dead' : DeadEnds),
      u.In content ∧ (back = false → s.pos ≤ u.pos) ∧ (k u dead').1 = some t :=
  ⟨s, dead, hs, fun _ => Nat.le_refl _, h⟩

/-- Two steps, the second one from where the first one has led. -/
theorem trans {s : Spot} {first : Continuation → Attempt} {second : Spot → Continuation → Attempt}
    (h1 : Passes content back s first)
    (h2 : ∀ u : Spot, u.In content → Passes content back u (second u)) :
    Passes content back s fun k => first fun u => second u k := by
  intro k dead t h
  obtain ⟨u, dead', hu, hsu, hk⟩ := h1 _ dead t h
  obtain ⟨v, dead'', hv, huv, hkv⟩ := h2 u hu k dead' t hk
  exact ⟨v, dead'', hv, fun e => Nat.le_trans (hsu e) (huv e), hkv⟩

/-- Two ways to take a step. -/
theorem orElse {s : Spot} {a b : Continuation → Attempt} (h1 : Passes content back s a)
    (h2 : Passes content back s b) : Passes content back s fun k => (a k).orElse (b k) := by
  intro k dead t h
  rcases Attempt.orElse_eq_some h with h | ⟨dead', h⟩
  · exact h1 k dead t h
  · exact h2 k dead' t h

/-- A step of which only the first outcome counts. -/
theorem andThen {s : Spot} {step : Continuation → Attempt} (h1 : Passes content back s step) :
    Passes content back s fun k => (step .stop).andThen k := by
  intro k dead t h
  obtain ⟨u, dead', hu, hk⟩ := Attempt.andThen_eq_some h
  obtain ⟨v, _, hv, hsv, hvu⟩ := h1 _ dead u hu
  cases hvu
  exact ⟨u, dead', hv, hsv, hk⟩

/-- A repetition that ends where its rounds have led. -/
theorem leaving {s : Spot} {site : Option Site} {step : Continuation → Attempt}
    (h1 : Passes content back s step) : Passes content back s fun k => step (leave site k) := by
  intro k dead t h
  obtain ⟨u, dead', hu, hsu, hk⟩ := h1 _ dead t h
  exact ⟨u, dead', hu, hsu, leave_eq_some hk⟩

end Passes

section Rounds

variable {content : Text} {back : Bool} {round : Round}

theorem mandatoryRounds_passes (hr : ∀ s : Spot, s.In content → Passes content back s (round s))
    (n : Nat) {s : Spot} (hs : s.In content) :
    Passes content back s (mandatoryRounds round n s) := by
  induction n generalizing s with
  | zero => exact fun k dead t h => Passes.stay hs h
  | succ n ih =>
    intro k dead t h
    exact Passes.trans (hr s hs) (fun u hu => ih hu) k dead t h

/-- One more round, after which the rounds may be over. -/
theorem longer_passes {most : Option Nat} {count : Nat} {s : Spot}
    {next : Spot → Continuation → Attempt}
    (hr : ∀ s : Spot, s.In content → Passes content back s (round s)) (hs : s.In content)
    (hn : ∀ u : Spot, u.In content → Passes content back u (next u)) :
    Passes content back s fun k =>
      if allowed most count then round s fun t => if s.settled t then k t else next t k
      else .fail := by
  intro k dead t h
  split at h
  · obtain ⟨u, dead', hu, hsu, hk⟩ := hr s hs _ dead t h
    split at hk
    · exact ⟨u, dead', hu, hsu, hk⟩
    · obtain ⟨v, dead'', hv, huv, hkv⟩ := hn u hu k dead' t hk
      exact ⟨v, dead'', hv, fun e => Nat.le_trans (hsu e) (huv e), hkv⟩
  · cases h

theorem greedyRounds_passes {most : Option Nat}
    (hr : ∀ s : Spot, s.In content → Passes content back s (round s)) (fuel count : Nat) {s : Spot}
    (hs : s.In content) :
    Passes content back s fun k => greedyRounds round most k fuel count s := by
  induction fuel generalizing count s with
  | zero => exact fun k dead t h => Passes.stay hs h
  | succ fuel ih =>
    exact Passes.orElse (longer_passes hr hs fun u hu => ih (count + 1) hu)
      fun k dead t h => Passes.stay hs h

theorem lazyRounds_passes {most : Option Nat}
    (hr : ∀ s : Spot, s.In content → Passes content back s (round s)) (fuel count : Nat) {s : Spot}
    (hs : s.In content) :
    Passes content back s fun k => lazyRounds round most k fuel count s := by
  induction fuel generalizing count s with
  | zero => exact fun k dead t h => Passes.stay hs h
  | succ fuel ih =>
    exact Passes.orElse (fun k dead t h => Passes.stay hs h)
      (longer_passes hr hs fun u hu => ih (count + 1) hu)

end Rounds

/-- A node hands a place in `content` to what comes after it. -/
theorem Node.run_passes {content : Text} (course : Course) (node : Node) (back : Bool)
    (site : Option Site) {s : Spot} (hs : s.In content) :
    Passes content back s (node.run course back site s) := by
  induction node generalizing back site s with
  | empty => exact fun k dead t h => Passes.stay hs h
  | chars c =>
    intro k dead t h
    obtain ⟨u, hu, hk⟩ := Attempt.along_eq_some h
    cases back with
    | true => exact ⟨u, dead, Spot.back?_in hs hu, nofun, hk⟩
    | false =>
      obtain ⟨h1, h2⟩ := Spot.ahead?_in hs hu
      exact ⟨u, dead, h1, fun _ => h2, hk⟩
  | seq a b iha ihb =>
    intro k dead t h
    cases back with
    | true => exact Passes.trans (ihb true _ hs) (fun u hu => iha true _ hu) k dead t h
    | false => exact Passes.trans (iha false _ hs) (fun u hu => ihb false _ hu) k dead t h
  | alt a b iha ihb => exact Passes.orElse (iha back _ hs) (ihb back _ hs)
  | capture group body ih =>
    intro k dead t h
    obtain ⟨u, dead', hu, hsu, hk⟩ := ih back site hs _ dead t h
    exact ⟨s.remember u group (course.referred.contains group), dead', ⟨hu.1, hu.2⟩, hsu, hk⟩
  | backref ref ignoreCase =>
    intro k dead t h
    cases hg : (groupNumber? course.names ref).bind fun group => s.captures.lookup group with
    | none =>
      simp only [Node.run, hg] at h
      cases h
    | some found =>
      simp only [Node.run, hg] at h
      obtain ⟨u, hu, hk⟩ := Attempt.along_eq_some h
      obtain ⟨h1, h2⟩ := Spot.past?_in hs hu
      exact ⟨u, dead, h1, h2, hk⟩
  | rep body least most greed ih =>
    have hr : ∀ (site : Option Site) (s : Spot), s.In content →
        Passes content back s (body.run course back site s) := fun site s hs => ih back site hs
    intro k dead t h
    cases greed with
    | greedy =>
      exact Passes.trans (mandatoryRounds_passes (hr _) least hs)
        (fun u hu => Passes.leaving (greedyRounds_passes (hr _) _ 0 hu)) k dead t h
    | lazy =>
      exact Passes.trans (mandatoryRounds_passes (hr _) least hs)
        (fun u hu => Passes.leaving (lazyRounds_passes (hr _) _ 0 hu)) k dead t h
    | possessive =>
      exact Passes.andThen (Passes.trans (mandatoryRounds_passes (hr _) least hs)
        (fun u hu => greedyRounds_passes (hr _) _ 0 hu)) k dead t h
  | anchor a =>
    intro k dead t h
    simp only [Node.run] at h
    split at h
    · exact Passes.stay hs h
    · cases h
  | look behind positive body ih =>
    intro k dead t h
    simp only [Node.run] at h
    split at h
    · next u dead' _ =>
      split at h
      · exact ⟨{ s with captures := u.captures, changes := u.changes }, dead', ⟨hs.1, hs.2⟩,
          fun _ => Nat.le_refl _, h⟩
      · cases h
    · split at h
      · cases h
      · exact Passes.stay hs h
  | atomic body ih => exact Passes.andThen (ih back _ hs)

/-- A match found from the place between `before` and `after` begins there or later, does not end
before it begins, and ends inside the text. -/
theorem Program.searchAt_bounds (p : Program) {course : Course} {site : Option Site}
    {before : Text} {pos : Nat} {after : Text} {dead : DeadEnds} {start stop : Nat}
    (hp : pos = before.length)
    (h : p.searchAt course site before pos after dead = some (start, stop)) :
    pos ≤ start ∧ start ≤ stop ∧ stop ≤ before.length + after.length := by
  induction after generalizing before pos dead with
  | nil =>
    simp only [searchAt] at h
    obtain ⟨t, ht, he⟩ := Option.map_eq_some_iff.1 h
    obtain ⟨rfl, rfl⟩ := Prod.mk.inj he
    have hs : Spot.In before.reverse ⟨before, [], pos, [], 0⟩ := ⟨by simp, hp⟩
    obtain ⟨u, _, hu, hsu, hut⟩ := Node.run_passes course p.node false site hs _ _ _ ht
    cases hut
    have := hu.pos_le
    simp only [List.length_reverse] at this
    exact ⟨Nat.le_refl _, hsu rfl, by simpa using this⟩
  | cons c after ih =>
    simp only [searchAt] at h
    split at h
    · next t _ ht =>
      obtain ⟨rfl, rfl⟩ := Prod.mk.inj (Option.some.inj h)
      have hs : Spot.In (before.reverse ++ c :: after) ⟨before, c :: after, pos, [], 0⟩ := ⟨rfl, hp⟩
      obtain ⟨u, _, hu, hsu, hut⟩ :=
        Node.run_passes course p.node false site hs _ _ t (by rw [ht])
      cases hut
      have := hu.pos_le
      simp only [List.length_append, List.length_reverse] at this
      exact ⟨Nat.le_refl _, hsu rfl, this⟩
    · obtain ⟨h1, h2, h3⟩ := ih (by simp [hp]) h
      simp only [List.length_cons] at h3 ⊢
      exact ⟨by omega, h2, by omega⟩

/-- A search from inside the text finds a span of the text at or after its start. -/
theorem Program.search?_bounds (p : Program) {content : Text} {pos start stop : Nat}
    (hp : pos ≤ content.length) (h : p.search? content pos = some (start, stop)) :
    pos ≤ start ∧ start ≤ stop ∧ stop ≤ content.length := by
  obtain ⟨h1, h2, h3⟩ := p.searchAt_bounds (by simp [hp]) h
  exact ⟨h1, h2, by simpa [hp] using h3⟩

end SecretScan.Regex
