import SecretScan.Finding.Dedup

/-!
# What freeing findings of duplicates does

`deduplicate` may fail, since a key needs the normal form of a location. Where all locations have
one it succeeds, and `Divides` says what it does: one rule for each thing that can happen to a
finding. The facts below go by induction over such a division.

* Findings may be freed of the duplicates among themselves first and of the duplicates of earlier
  findings afterwards: the same ones are kept, and the same ones are left out (`divides_nested`).
* Findings may be divided part by part, so what is kept of the first ones is settled before the
  others are looked at (`Divides.append`, `Divides.kept_isPrefix_kept`).
* Findings of different rules or with different texts do not meet, because a key carries both: what
  is kept of some of them does not depend on the others (`divides_filter`, `divides_restrict`).
-/

namespace SecretScan

/-- A location that has a normal form. -/
def Location.Valid (l : Text) : Prop :=
  ∃ n, Location.normalize l = .ok n

instance Location.decidableValid (l : Text) : Decidable (Location.Valid l) :=
  match h : Location.normalize l with
  | .ok n => isTrue ⟨n, h⟩
  | .error _ => isFalse (by rintro ⟨n, hn⟩; rw [h] at hn; cases hn)

theorem Finding.key_of_valid {f : Finding} (h : Location.Valid f.location) :
    ∃ key, f.key = .ok key := by
  obtain ⟨n, hn⟩ := h
  exact ⟨⟨f.found.ruleId, f.found.text, n⟩, by simp [Finding.key, hn, bind, Except.bind, pure,
    Except.pure]⟩

/-- A key carries the rule of its finding. -/
theorem Finding.key_ruleId {f : Finding} {key : FindingKey} (h : f.key = .ok key) :
    key.ruleId = f.found.ruleId := by
  unfold Finding.key at h
  cases hn : Location.normalize f.location with
  | error e => rw [hn] at h; cases h
  | ok n => rw [hn] at h; cases h; rfl

/-- A key carries the matched text of its finding. -/
theorem Finding.key_text {f : Finding} {key : FindingKey} (h : f.key = .ok key) :
    key.text = f.found.text := by
  unfold Finding.key at h
  cases hn : Location.normalize f.location with
  | error e => rw [hn] at h; cases h
  | ok n => rw [hn] at h; cases h; rfl

/-- A key carries the normal form of the location of its finding. -/
theorem Finding.key_location {f : Finding} {key : FindingKey} (h : f.key = .ok key) :
    Location.normalize f.location = .ok key.location := by
  unfold Finding.key at h
  cases hn : Location.normalize f.location with
  | error e => rw [hn] at h; cases h
  | ok n => rw [hn] at h; cases h; rfl

/-- `Divides seen fs d`: given the keys `seen`, the findings `fs` are divided into `d`. -/
inductive Divides : List FindingKey → List Finding → Division → Prop where
  | nil {seen : List FindingKey} : Divides seen [] ⟨[], [], seen⟩
  | again {seen : List FindingKey} {f : Finding} {fs : List Finding} {key : FindingKey}
      {d : Division} :
      f.key = .ok key → key ∈ seen → Divides seen fs d →
      Divides seen (f :: fs) { d with duplicates := f :: d.duplicates }
  | first {seen : List FindingKey} {f : Finding} {fs : List Finding} {key : FindingKey}
      {d : Division} :
      f.key = .ok key → key ∉ seen → Divides (key :: seen) fs d →
      Divides seen (f :: fs) { d with kept := f :: d.kept }

/-! ## Divisions and `deduplicate` -/

theorem deduplicate_of_divides {seen : List FindingKey} {fs : List Finding} {d : Division}
    (h : Divides seen fs d) : deduplicate seen fs = .ok d := by
  induction h with
  | nil => rfl
  | again hkey hmem _ ih =>
      rw [deduplicate, hkey]
      simp only [bind, Except.bind, pure, Except.pure]
      rw [if_pos hmem, ih]
  | first hkey hmem _ ih =>
      rw [deduplicate, hkey]
      simp only [bind, Except.bind, pure, Except.pure]
      rw [if_neg hmem, ih]

/-- There is only one way to divide findings. -/
theorem Divides.unique {seen : List FindingKey} {fs : List Finding} {d d' : Division}
    (h : Divides seen fs d) (h' : Divides seen fs d') : d = d' :=
  Except.ok.inj ((deduplicate_of_divides h).symm.trans (deduplicate_of_divides h'))

/-- Findings with valid locations can always be divided. -/
theorem exists_divides {fs : List Finding} (h : ∀ f ∈ fs, Location.Valid f.location) :
    ∀ seen, ∃ d, Divides seen fs d := by
  induction fs with
  | nil => exact fun _ => ⟨_, .nil⟩
  | cons f fs ih =>
      intro seen
      have hfs := ih (fun g hg => h g (List.mem_cons_of_mem f hg))
      obtain ⟨key, hkey⟩ := Finding.key_of_valid (h f List.mem_cons_self)
      by_cases hmem : key ∈ seen
      · obtain ⟨d, hd⟩ := hfs seen
        exact ⟨_, .again hkey hmem hd⟩
      · obtain ⟨d, hd⟩ := hfs (key :: seen)
        exact ⟨_, .first hkey hmem hd⟩

/-- What is kept is among the findings. -/
theorem Divides.kept_sublist {seen : List FindingKey} {fs : List Finding} {d : Division}
    (h : Divides seen fs d) : d.kept.Sublist fs := by
  induction h with
  | nil => exact .slnil
  | again _ _ _ ih => exact .cons _ ih
  | first _ _ _ ih => exact .cons_cons _ ih

/-- What is left out is among the findings too. -/
theorem Divides.duplicates_sublist {seen : List FindingKey} {fs : List Finding} {d : Division}
    (h : Divides seen fs d) : d.duplicates.Sublist fs := by
  induction h with
  | nil => exact .slnil
  | again _ _ _ ih => exact .cons_cons _ ih
  | first _ _ _ ih => exact .cons _ ih

/-! ## One part after the other -/

/-- Findings with keys have valid locations. -/
theorem Divides.valid {seen : List FindingKey} {fs : List Finding} {d : Division}
    (h : Divides seen fs d) : ∀ f ∈ fs, Location.Valid f.location := by
  have hkey {f : Finding} {key : FindingKey} (h : f.key = .ok key) : Location.Valid f.location := by
    unfold Finding.key at h
    cases hn : Location.normalize f.location with
    | error e => rw [hn] at h; cases h
    | ok n => exact ⟨n, hn⟩
  induction h with
  | nil => intro f hf; cases hf
  | again hk _ _ ih => exact List.forall_mem_cons.mpr ⟨hkey hk, ih⟩
  | first hk _ _ ih => exact List.forall_mem_cons.mpr ⟨hkey hk, ih⟩

/-- Findings may be divided in two parts; the second one is given the keys seen in the first. -/
theorem Divides.append {seen : List FindingKey} {fs gs : List Finding} {d e : Division}
    (h : Divides seen fs d) (h' : Divides d.seen gs e) :
    Divides seen (fs ++ gs) ⟨d.kept ++ e.kept, d.duplicates ++ e.duplicates, e.seen⟩ := by
  induction h with
  | nil => exact h'
  | again hkey hmem _ ih => exact .again hkey hmem (ih h')
  | first hkey hmem _ ih => exact .first hkey hmem (ih h')

/-- What is divided in one go is divided in two parts. -/
theorem Divides.split {seen : List FindingKey} {fs gs : List Finding} {e : Division}
    (h : Divides seen (fs ++ gs) e) :
    ∃ d d', Divides seen fs d ∧ Divides d.seen gs d' ∧ e.kept = d.kept ++ d'.kept := by
  obtain ⟨d, hd⟩ := exists_divides (fun f hf => h.valid f (List.mem_append_left gs hf)) seen
  obtain ⟨d', hd'⟩ := exists_divides (fun f hf => h.valid f (List.mem_append_right fs hf)) d.seen
  obtain rfl := h.unique (hd.append hd')
  exact ⟨d, d', hd, hd', rfl⟩

/-- **More findings change nothing about those before them.** What is kept of the first findings is
the beginning of what is kept of all. -/
theorem Divides.kept_isPrefix_kept {seen : List FindingKey} {fs gs : List Finding} {d e : Division}
    (h : Divides seen fs d) (h' : Divides seen gs e) (hpre : fs <+: gs) : d.kept <+: e.kept := by
  obtain ⟨rest, rfl⟩ := hpre
  obtain ⟨d₁, d₂, h₁, -, hkept⟩ := h'.split
  obtain rfl := h.unique h₁
  exact ⟨d₂.kept, hkept.symm⟩

/-- Findings that are changed in nothing that a key carries are divided alike. -/
theorem Divides.map {seen : List FindingKey} {fs : List Finding} {d : Division}
    {g : Finding → Finding} (hg : ∀ f, (g f).key = f.key) (h : Divides seen fs d) :
    Divides seen (fs.map g) ⟨d.kept.map g, d.duplicates.map g, d.seen⟩ := by
  induction h with
  | nil => exact .nil
  | again hkey hmem _ ih => exact .again ((hg _).trans hkey) hmem ih
  | first hkey hmem _ ih => exact .first ((hg _).trans hkey) hmem ih

/-! ## Two levels of duplicates -/

/--
**Two levels of duplicates are one.**

Let findings be freed of duplicates with few keys, and what is kept be freed of duplicates once more
with more keys. The same findings are kept as with the larger set of keys from the start, and each
of the others is left out once, on one of the two levels.
-/
theorem divides_nested {inner outer : List FindingKey} {fs : List Finding} {d : Division}
    (h : Divides inner fs d) (hsub : inner ⊆ outer) :
    ∃ d₁ d₂, Divides outer d.kept d₁ ∧ Divides outer fs d₂ ∧ d₂.kept = d₁.kept
      ∧ d₂.seen = d₁.seen ∧ d₂.duplicates.Perm (d.duplicates ++ d₁.duplicates) := by
  induction h generalizing outer with
  | nil => exact ⟨_, _, .nil, .nil, rfl, rfl, List.Perm.nil⟩
  | again hkey hmem _ ih =>
      obtain ⟨d₁, d₂, h₁, h₂, hk, hs, hp⟩ := ih hsub
      exact ⟨d₁, _, h₁, .again hkey (hsub hmem) h₂, hk, hs, hp.cons _⟩
  | @first inner f fs key d hkey hmem _ ih =>
      by_cases hout : key ∈ outer
      · -- kept on the inner level, left out on the outer one
        obtain ⟨d₁, d₂, h₁, h₂, hk, hs, hp⟩ :=
          ih (List.cons_subset.mpr ⟨hout, hsub⟩)
        refine ⟨_, _, .again hkey hout h₁, .again hkey hout h₂, hk, hs, ?_⟩
        exact (hp.cons f).trans List.perm_middle.symm
      · obtain ⟨d₁, d₂, h₁, h₂, hk, hs, hp⟩ :=
          ih (List.cons_subset_cons key hsub)
        refine ⟨_, _, .first hkey hout h₁, .first hkey hout h₂, ?_, hs, hp⟩
        exact congrArg (f :: ·) hk

/-! ## The findings of some rules and texts -/

/-- **Different secrets do not meet.** Findings selected by their rules and texts are divided as
they are among the others. -/
theorem divides_filter {seen : List FindingKey} {fs : List Finding} {d : Division}
    (p : String → Text → Bool) (h : Divides seen fs d) :
    Divides (seen.filter fun key => p key.ruleId key.text)
      (fs.filter fun f => p f.found.ruleId f.found.text)
      ⟨d.kept.filter fun f => p f.found.ruleId f.found.text,
        d.duplicates.filter fun f => p f.found.ruleId f.found.text,
        d.seen.filter fun key => p key.ruleId key.text⟩ := by
  induction h with
  | nil => exact .nil
  | @again seen f fs key d hkey hmem _ ih =>
      have hid := Finding.key_ruleId hkey
      have htext := Finding.key_text hkey
      by_cases hp : p f.found.ruleId f.found.text
      · have hmem' : key ∈ seen.filter fun key => p key.ruleId key.text :=
          List.mem_filter.mpr ⟨hmem, by rw [hid, htext]; exact hp⟩
        simp only [List.filter_cons, if_pos hp]
        exact .again hkey hmem' ih
      · simp only [List.filter_cons, if_neg hp]
        exact ih
  | @first seen f fs key d hkey hmem _ ih =>
      have hid := Finding.key_ruleId hkey
      have htext := Finding.key_text hkey
      rw [List.filter_cons, hid, htext] at ih
      by_cases hp : p f.found.ruleId f.found.text
      · have hmem' : key ∉ seen.filter fun key => p key.ruleId key.text :=
          fun hm => hmem (List.mem_filter.mp hm).1
        simp only [List.filter_cons, if_pos hp]
        rw [if_pos hp] at ih
        exact .first hkey hmem' ih
      · -- the key of a finding that is not looked at is not looked at either
        simp only [List.filter_cons, if_neg hp]
        rw [if_neg hp] at ih
        exact ih

/-- The part of a division that belongs to the rules in `p`. -/
def Division.restrict (p : String → Bool) (d : Division) : Division :=
  ⟨d.kept.filter fun f => p f.found.ruleId, d.duplicates.filter fun f => p f.found.ruleId,
    d.seen.filter fun key => p key.ruleId⟩

/-- **Rules do not meet.** The findings of some rules are divided as they are among the others. -/
theorem divides_restrict {seen : List FindingKey} {fs : List Finding} {d : Division}
    (p : String → Bool) (h : Divides seen fs d) :
    Divides (seen.filter fun key => p key.ruleId) (fs.filter fun f => p f.found.ruleId)
      (d.restrict p) :=
  divides_filter (fun ruleId _ => p ruleId) h

/-! ## Findings that others hide -/

/-- The keys seen in the end are those seen before and those of what is kept. -/
theorem Divides.mem_seen_iff {seen : List FindingKey} {fs : List Finding} {d : Division}
    (h : Divides seen fs d) (key : FindingKey) :
    key ∈ d.seen ↔ key ∈ seen ∨ ∃ f ∈ d.kept, f.key = .ok key := by
  induction h with
  | nil => simp
  | again _ _ _ ih => exact ih
  | @first seen f fs key' d hkey _ _ ih =>
      rw [ih, List.mem_cons]
      constructor
      · rintro ((rfl | hmem) | ⟨g, hg, hgkey⟩)
        · exact .inr ⟨f, List.mem_cons_self, hkey⟩
        · exact .inl hmem
        · exact .inr ⟨g, List.mem_cons_of_mem f hg, hgkey⟩
      · rintro (hmem | ⟨g, hg, hgkey⟩)
        · exact .inl (.inr hmem)
        · rcases List.mem_cons.mp hg with rfl | hg
          · exact .inl (.inl (Except.ok.inj (hgkey.symm.trans hkey)))
          · exact .inr ⟨g, hg, hgkey⟩

/-- Two findings of one key: they agree in the rule and the text, and their locations in the normal
form. -/
def Finding.sameKey (f g : Finding) : Bool :=
  match f.key, g.key with
  | .ok key, .ok key' => key = key'
  | _, _ => false

theorem Finding.normalize_of_sameKey {f g : Finding} (h : f.sameKey g = true) :
    Location.normalize f.location = Location.normalize g.location := by
  unfold sameKey at h
  split at h
  · next key key' hf hg =>
      obtain rfl := of_decide_eq_true h
      rw [Finding.key_location hf, Finding.key_location hg]
  · cases h

theorem Finding.sameKey_iff {f g : Finding} {key : FindingKey} (h : g.key = .ok key) :
    f.sameKey g = true ↔ f.key = .ok key := by
  rw [sameKey, h]
  cases f.key with
  | ok key' => simp
  | error e => simp

/-- **What more keys hide.** If the keys of some other findings have been seen as well, exactly the
findings with one of these keys are left out in addition. -/
theorem Divides.kept_of_more_seen {seen seen' : List FindingKey} {fs others : List Finding}
    {d d' : Division} (h : Divides seen fs d) (h' : Divides seen' fs d')
    (hseen : ∀ key, key ∈ seen' ↔ key ∈ seen ∨ ∃ g ∈ others, g.key = .ok key) :
    d'.kept = d.kept.filter fun f => !others.any (·.sameKey f) := by
  induction h generalizing seen' d' with
  | nil =>
      cases h'
      rfl
  | @again seen f fs key d hkey hmem _ ih =>
      have hmem' : key ∈ seen' := (hseen key).mpr (.inl hmem)
      cases h' with
      | again _ _ hrest' => exact (ih hrest' hseen :)
      | first hkey' hnot =>
          obtain rfl := Except.ok.inj (hkey.symm.trans hkey')
          exact absurd hmem' hnot
  | @first seen f fs key d hkey hmem _ ih =>
      have hany : others.any (·.sameKey f) = true ↔ ∃ g ∈ others, g.key = .ok key := by
        rw [List.any_eq_true]
        exact exists_congr fun g => and_congr_right fun _ => Finding.sameKey_iff hkey
      by_cases hhidden : ∃ g ∈ others, g.key = .ok key
      · -- the key of the finding is no news for the larger set of keys
        have hseen' : ∀ key', key' ∈ seen' ↔
            key' ∈ key :: seen ∨ ∃ g ∈ others, g.key = .ok key' := by
          intro key'
          rw [hseen, List.mem_cons]
          constructor
          · rintro (h | h)
            · exact .inl (.inr h)
            · exact .inr h
          · rintro ((rfl | h) | h)
            · exact .inr hhidden
            · exact .inl h
            · exact .inr h
        rw [List.filter_cons, if_neg (by rw [hany.mpr hhidden]; decide)]
        cases h' with
        | again _ _ hrest' => exact (ih hrest' hseen' :)
        | first hkey' hnot =>
            obtain rfl := Except.ok.inj (hkey.symm.trans hkey')
            exact absurd ((hseen key).mpr (.inr hhidden)) hnot
      · have hnot : key ∉ seen' := by
          rw [hseen]
          exact not_or.mpr ⟨hmem, hhidden⟩
        have hshown : others.any (·.sameKey f) = false := by
          rw [Bool.eq_false_iff]
          exact mt hany.mp hhidden
        rw [List.filter_cons, hshown, if_pos (by decide)]
        cases h' with
        | again hkey' hmem' =>
            obtain rfl := Except.ok.inj (hkey.symm.trans hkey')
            exact absurd hmem' hnot
        | @first _ _ _ _ d'' hkey' _ hrest' =>
            obtain rfl := Except.ok.inj (hkey.symm.trans hkey')
            refine congrArg (f :: ·) (ih hrest' fun key' => ?_)
            rw [List.mem_cons, List.mem_cons, hseen, or_assoc]

end SecretScan
