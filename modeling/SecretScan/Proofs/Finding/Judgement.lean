import SecretScan.Proofs.Finding.Score

/-!
# The judgement on each match

Scoring goes over its matches twice: first it drops those to which something is objected, then it
frees the rest of duplicates. Seen from one match this is a single question with one answer. The
match is reported, or there is one reason why it is not, and `Match.rejection?` says which. It looks
at the match itself, at the keys seen before, and at the earlier matches that passed both filters;
a match that a filter drops hides nothing.

`score_judgements` says that scoring judges every match like this. The induction is on the matches.
What it carries along is which keys are taken: those of the earlier matches that passed, whether
they were reported or were duplicates themselves.
-/

namespace SecretScan

/-- The key of a match where the location has the normal form `place`. -/
def Match.keyAt (m : Match) (place : Text) : FindingKey :=
  ⟨m.ruleId, m.text, place⟩

/-- A match that passes both filters: it does not look benign, and its score is high enough. -/
def Match.Passes (m : Match) (content : Text) (minScore : Int) : Prop :=
  benignReason? content m.offset m.text = none ∧ minScore ≤ (scoreOf m.confidence m.entropy).val

instance Match.decidablePasses (m : Match) (content : Text) (minScore : Int) :
    Decidable (m.Passes content minScore) :=
  inferInstanceAs (Decidable (_ ∧ _))

section

variable (content place : Text) (minScore : Int) (seen : List FindingKey)

/-- A key that a match behind `earlier` must not have: it was seen before, or an earlier match that
passes both filters has it. -/
def Taken (earlier : List Match) (key : FindingKey) : Prop :=
  key ∈ seen ∨ ∃ e ∈ earlier, e.Passes content minScore ∧ e.keyAt place = key

instance Taken.decidable (earlier : List Match) (key : FindingKey) :
    Decidable (Taken content place minScore seen earlier key) :=
  inferInstanceAs (Decidable (_ ∨ _))

/-- Why a match that comes behind the matches `earlier` is not reported. -/
def Match.rejection? (earlier : List Match) (m : Match) : Option Reason :=
  match benignReason? content m.offset m.text with
  | some reason => some reason
  | none =>
    if ((scoreOf m.confidence m.entropy).val : Int) < minScore then some .lowConfidence
    else if Taken content place minScore seen earlier (m.keyAt place) then some .duplicate
    else none

/-- A match and why it is not reported, if it is not. -/
structure Judgement where
  /-- The match. -/
  found : Match
  /-- The reason against it. -/
  reason : Option Reason

/-- The judgements on matches that come behind the matches `earlier`. -/
def judgements : List Match → List Match → List Judgement
  | _, [] => []
  | earlier, m :: ms =>
    ⟨m, m.rejection? content place minScore seen earlier⟩ :: judgements (earlier ++ [m]) ms

end

/-- The finding of a match that is reported. -/
def Judgement.finding? (content location : Text) (v : Judgement) : Option Finding :=
  match v.reason with
  | none => some (v.found.finding content location)
  | some _ => none

/-- The suppression of a match that is not reported. -/
def Judgement.suppression? (location : Text) (v : Judgement) : Option Suppression :=
  v.reason.map fun reason => ⟨v.found.ruleId, location, v.found.offset, reason⟩

variable {content location place : Text} {minScore : Int} {seen : List FindingKey}

/-! ## One match -/

theorem Match.finding_key (h : Location.normalize location = .ok place) (m : Match) :
    (m.finding content location).key = .ok (m.keyAt place) := by
  unfold Finding.key
  show (Location.normalize location >>= _) = _
  rw [h]
  rfl

theorem Match.passes_iff {m : Match} :
    m.Passes content minScore ↔ m.objection? content minScore = none :=
  Match.objection?_eq_none_iff.symm

/-- A match to which something is objected is not reported for that reason. -/
theorem Match.rejection?_of_objection {m : Match} {reason : Reason} {earlier : List Match}
    (h : m.objection? content minScore = some reason) :
    m.rejection? content place minScore seen earlier = some reason := by
  unfold objection? at h
  unfold rejection?
  cases hbenign : benignReason? content m.offset m.text with
  | some benign =>
      rw [hbenign] at h
      exact h
  | none =>
      rw [hbenign] at h
      dsimp only at h ⊢
      split at h
      · next hlow => rw [if_pos hlow, h]
      · cases h

/-- Any other match is rejected only if its key is taken. -/
theorem Match.rejection?_of_passes {m : Match} {earlier : List Match}
    (h : m.Passes content minScore) :
    m.rejection? content place minScore seen earlier =
      if Taken content place minScore seen earlier (m.keyAt place) then some .duplicate
      else none := by
  obtain ⟨hbenign, hscore⟩ := h
  unfold rejection?
  rw [hbenign]
  exact if_neg (by omega)

theorem taken_nil {key : FindingKey} :
    Taken content place minScore seen [] key ↔ key ∈ seen := by
  unfold Taken
  simp

theorem taken_concat {earlier : List Match} {m : Match} {key : FindingKey} :
    Taken content place minScore seen (earlier ++ [m]) key ↔
      Taken content place minScore seen earlier key
        ∨ m.Passes content minScore ∧ m.keyAt place = key := by
  unfold Taken
  simp only [List.mem_append, List.mem_singleton, or_and_right, exists_or, exists_eq_left, or_assoc]

/-! ## All matches -/

theorem map_found_judgements (earlier ms : List Match) :
    (judgements content place minScore seen earlier ms).map Judgement.found = ms := by
  induction ms generalizing earlier with
  | nil => rfl
  | cons m ms ih => rw [judgements, List.map_cons, ih]

/-- Every judgement is told once, by a finding or by a suppression. -/
theorem length_filterMap_judgements (content location : Text) (js : List Judgement) :
    (js.filterMap (Judgement.finding? content location)).length
      + (js.filterMap (Judgement.suppression? location)).length = js.length := by
  induction js with
  | nil => rfl
  | cons j js ih =>
      obtain ⟨m, reason⟩ := j
      cases reason with
      | none =>
          have hfinding : Judgement.finding? content location ⟨m, none⟩
              = some (m.finding content location) := rfl
          have hsuppression : Judgement.suppression? location ⟨m, none⟩ = none := rfl
          rw [List.filterMap_cons_some hfinding, List.filterMap_cons_none hsuppression,
            List.length_cons, List.length_cons]
          omega
      | some reason =>
          have hfinding : Judgement.finding? content location ⟨m, some reason⟩ = none := rfl
          have hsuppression : Judgement.suppression? location ⟨m, some reason⟩
              = some ⟨m.ruleId, location, m.offset, reason⟩ := rfl
          rw [List.filterMap_cons_none hfinding, List.filterMap_cons_some hsuppression,
            List.length_cons, List.length_cons]
          omega

/-- **The triage and the division behind it judge every match.** -/
theorem divides_judgements (hplace : Location.normalize location = .ok place)
    {ms earlier : List Match} {now : List FindingKey} {d : Division}
    (hnow : ∀ key, key ∈ now ↔ Taken content place minScore seen earlier key)
    (h : Divides now (triage content location minScore ms).candidates d) :
    d.kept = (judgements content place minScore seen earlier ms).filterMap
        (Judgement.finding? content location)
      ∧ ((triage content location minScore ms).suppressed
          ++ d.duplicates.map (·.asDuplicate location)).Perm
        ((judgements content place minScore seen earlier ms).filterMap
          (Judgement.suppression? location)) := by
  induction ms generalizing earlier now d with
  | nil =>
      cases h with
      | nil => exact ⟨rfl, List.Perm.nil⟩
  | cons m ms ih =>
      rw [judgements, triage] at *
      cases hobjection : m.objection? content minScore with
      | some reason =>
          -- the match takes no key, so the others are judged as if it were not there
          have hnot : ¬ m.Passes content minScore := by
            rw [Match.passes_iff, hobjection]
            exact Option.some_ne_none reason
          have hnow' : ∀ key, key ∈ now ↔
              Taken content place minScore seen (earlier ++ [m]) key := by
            intro key
            rw [hnow, taken_concat]
            exact (or_iff_left fun hm => hnot hm.1).symm
          rw [hobjection] at h
          obtain ⟨hkept, hperm⟩ := ih hnow' h
          rw [Match.rejection?_of_objection hobjection]
          exact ⟨hkept, hperm.cons _⟩
      | none =>
          have hpasses : m.Passes content minScore := Match.passes_iff.mpr hobjection
          have hkey : (m.finding content location).key = .ok (m.keyAt place) :=
            Match.finding_key hplace m
          rw [hobjection] at h
          rw [Match.rejection?_of_passes hpasses]
          cases h with
          | @again _ _ _ key d hkey' hmem hrest =>
              obtain rfl := Except.ok.inj (hkey.symm.trans hkey')
              have htaken := (hnow _).mp hmem
              have hnow' : ∀ key, key ∈ now ↔
                  Taken content place minScore seen (earlier ++ [m]) key := by
                intro key
                rw [hnow, taken_concat]
                refine (or_iff_left_of_imp fun hm => ?_).symm
                rw [← hm.2]
                exact htaken
              obtain ⟨hkept, hperm⟩ := ih hnow' hrest
              rw [if_pos htaken]
              refine ⟨hkept, ?_⟩
              exact List.perm_middle.trans (hperm.cons _)
          | @first _ _ _ key d hkey' hmem hrest =>
              obtain rfl := Except.ok.inj (hkey.symm.trans hkey')
              have hfree := mt (hnow _).mpr hmem
              have hnow' : ∀ key, key ∈ m.keyAt place :: now ↔
                  Taken content place minScore seen (earlier ++ [m]) key := by
                intro key
                rw [List.mem_cons, hnow, taken_concat, or_comm, and_iff_right hpasses, eq_comm]
              obtain ⟨hkept, hperm⟩ := ih hnow' hrest
              rw [if_neg hfree]
              exact ⟨congrArg (m.finding content location :: ·) hkept, hperm⟩

/-! ## Scoring part by part -/

theorem triage_append (content location : Text) (minScore : Int) (xs ys : List Match) :
    triage content location minScore (xs ++ ys)
      = ⟨(triage content location minScore xs).candidates
            ++ (triage content location minScore ys).candidates,
          (triage content location minScore xs).suppressed
            ++ (triage content location minScore ys).suppressed⟩ := by
  induction xs with
  | nil => rfl
  | cons m xs ih =>
      rw [List.cons_append, triage, triage, ih]
      cases m.objection? content minScore with
      | some reason => rfl
      | none => rfl

/-- Matches are scored in two parts, the second one given the keys of the first. -/
theorem score_append {xs ys : List Match} {d e : Division}
    (hd : Divides seen (triage content location minScore xs).candidates d)
    (he : Divides d.seen (triage content location minScore ys).candidates e) :
    ∃ a b s, score content location minScore seen xs = .ok a
      ∧ score content location minScore a.seen ys = .ok b
      ∧ score content location minScore seen (xs ++ ys) = .ok s
      ∧ s.findings = a.findings ++ b.findings
      ∧ s.suppressed.Perm (a.suppressed ++ b.suppressed)
      ∧ s.seen = b.seen := by
  have happend := hd.append he
  have hboth : Divides seen (triage content location minScore (xs ++ ys)).candidates
      ⟨d.kept ++ e.kept, d.duplicates ++ e.duplicates, e.seen⟩ := by
    rw [triage_append]
    exact happend
  refine ⟨_, _, _, score_of_divides hd, score_of_divides he, score_of_divides hboth, rfl, ?_, rfl⟩
  -- the duplicates of the first part come before what the second part objects to, or behind it
  rw [triage_append, List.map_append]
  simp only [List.append_assoc]
  refine List.Perm.append_left _ ?_
  rw [← List.append_assoc, ← List.append_assoc]
  exact List.perm_append_comm.append_right _

/-- A match to which something is objected makes no candidate. -/
theorem triage_candidates_of_objection {before after : List Match} {m : Match}
    (h : m.objection? content minScore ≠ none) :
    (triage content location minScore (before ++ m :: after)).candidates
      = (triage content location minScore (before ++ after)).candidates := by
  have hsome : (m.objection? content minScore).isNone = false := by
    rw [Option.isNone_eq_false_iff, Option.isSome_iff_ne_none]
    exact h
  rw [triage_candidates, triage_candidates, List.filter_append, List.filter_append,
    List.filter_cons, hsome]
  rfl

/--
**Scoring judges every match once.**

At a location with a normal form, scoring has a result. Every match gets one judgement and becomes
one finding or one suppression of its rule, offset and reason; the findings stand in the order of
the matches. The keys seen in the end are those seen before and those of the findings. A match that
a filter drops changes nothing for the others, and scoring part by part comes to the same.
-/
theorem score_judgements (hplace : Location.normalize location = .ok place) (content : Text)
    (minScore : Int) (seen : List FindingKey) (ms : List Match) :
    ∃ s, score content location minScore seen ms = .ok s
      ∧ (judgements content place minScore seen [] ms).map Judgement.found = ms
      ∧ s.findings = (judgements content place minScore seen [] ms).filterMap
          (Judgement.finding? content location)
      ∧ s.suppressed.Perm
          ((judgements content place minScore seen [] ms).filterMap
            (Judgement.suppression? location))
      ∧ s.findings.length + s.suppressed.length = ms.length
      ∧ (∀ key, key ∈ s.seen ↔ key ∈ seen ∨ ∃ f ∈ s.findings, f.key = .ok key)
      ∧ (∀ before m after, ms = before ++ m :: after → ¬ m.Passes content minScore →
          ∃ s', score content location minScore seen (before ++ after) = .ok s'
            ∧ s'.findings = s.findings ∧ s'.seen = s.seen)
      ∧ ∀ xs ys, ms = xs ++ ys → ∃ a b, score content location minScore seen xs = .ok a
          ∧ score content location minScore a.seen ys = .ok b
          ∧ s.findings = a.findings ++ b.findings
          ∧ s.suppressed.Perm (a.suppressed ++ b.suppressed)
          ∧ s.seen = b.seen := by
  have hvalid : Location.Valid location := ⟨place, hplace⟩
  have hdivides : ∀ seen ms, ∃ d, Divides seen (triage content location minScore ms).candidates d :=
    fun seen ms => exists_divides_triage hvalid seen
  obtain ⟨d, hd⟩ := hdivides seen ms
  obtain ⟨hkept, hperm⟩ := divides_judgements hplace (fun key => taken_nil.symm) hd
  have hfound : (judgements content place minScore seen [] ms).map Judgement.found = ms :=
    map_found_judgements [] ms
  refine ⟨_, score_of_divides hd, hfound, hkept, hperm, ?_, hd.mem_seen_iff, ?_, ?_⟩
  · have hlength := congrArg List.length hfound
    rw [List.length_map] at hlength
    rw [hperm.length_eq, ← hlength]
    show d.kept.length + _ = _
    rw [hkept]
    exact length_filterMap_judgements content location _
  · intro before m after hms hnot
    rw [Match.passes_iff] at hnot
    rw [hms, triage_candidates_of_objection hnot] at hd
    exact ⟨_, score_of_divides hd, rfl, rfl⟩
  · intro xs ys hms
    obtain ⟨dx, hdx⟩ := hdivides seen xs
    obtain ⟨dy, hdy⟩ := hdivides dx.seen ys
    obtain ⟨a, b, s, ha, hb, hs, hfindings, hsuppressed, hseen⟩ := score_append hdx hdy
    rw [← hms, score_of_divides hd] at hs
    obtain rfl := Except.ok.inj hs
    exact ⟨a, b, ha, hb, hfindings, hsuppressed, hseen⟩

/-- Two matches of a sure rule with the text of a match of an unsure one, and the name of a class
twice. -/
def shadowedMatches : List Match :=
  let found (confidence : Confidence) (text : String) (offset : Nat) : Match :=
    ⟨"key", "Key", confidence, text.toList, offset, none, false⟩
  [found .low "k12" 0, found .high "k12" 4, found .high "k12" 8,
    found .high "UserProfileController" 12, found .high "UserProfileController" 34]

/-- What a filter drops hides nothing: the second match is reported, and the third one is not. -/
theorem score_judgements_shadow :
    let content := "k12 k12 k12 UserProfileController UserProfileController".toList
    let location := "a.py?x".toList
    Location.normalize location = .ok "a.py".toList
      ∧ ∃ s, score content location 70 [] shadowedMatches = .ok s
        ∧ s.findings.map (fun f => (f.found.ruleId, f.found.offset)) = [("key", 4)]
        ∧ s.suppressed.Perm
          [⟨"key", location, 0, .lowConfidence⟩, ⟨"key", location, 8, .duplicate⟩,
            ⟨"key", location, 12, .benignShape⟩, ⟨"key", location, 34, .benignShape⟩]
        ∧ s.findings.length + s.suppressed.length = 5 := by
  intro content location
  have hplace : Location.normalize location = .ok "a.py".toList := rfl
  obtain ⟨s, hs, -, hfindings, hsuppressed, hlength, -⟩ :=
    score_judgements hplace content 70 [] shadowedMatches
  refine ⟨hplace, s, hs, ?_, ?_, hlength⟩
  · rw [hfindings]
    decide +kernel
  · refine hsuppressed.trans (List.Perm.of_eq ?_)
    decide +kernel

end SecretScan
