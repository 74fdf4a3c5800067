import SecretScan.Finding.Score
import SecretScan.Proofs.Finding.Dedup

/-!
# What scoring does

Scoring divides matches by whether something speaks against them and then frees the candidates of
duplicates. With a valid location the second part is a division (`Divides`), so the score of matches
is known from the triage and that division (`score_of_divides`).

Nothing that is decided about a match looks at another match except for duplicates. So the matches
of some rules are triaged as they are among the others (`triage_restrict`).
-/

namespace SecretScan

/-- Nothing is objected to a match exactly if it does not look benign and its score is high
enough. -/
theorem Match.objection?_eq_none_iff {m : Match} {content : Text} {minScore : Int} :
    m.objection? content minScore = none ↔
      benignReason? content m.offset m.text = none
        ∧ minScore ≤ (scoreOf m.confidence m.entropy).val := by
  unfold objection?
  cases benignReason? content m.offset m.text with
  | some reason => simp
  | none => simp

/-- All candidates lie where the content comes from. -/
theorem triage_location {content location : Text} {minScore : Int} {ms : List Match} :
    ∀ f ∈ (triage content location minScore ms).candidates, f.location = location := by
  induction ms with
  | nil => intro f hf; cases hf
  | cons m ms ih =>
      intro f hf
      unfold triage at hf
      cases ho : m.objection? content minScore with
      | some reason => rw [ho] at hf; exact ih f hf
      | none =>
          rw [ho] at hf
          rcases List.mem_cons.mp hf with rfl | hf'
          · rfl
          · exact ih f hf'

/-- The candidates are the findings of the matches to which nothing is objected, in their order. -/
theorem triage_candidates (content location : Text) (minScore : Int) (ms : List Match) :
    (triage content location minScore ms).candidates
      = (ms.filter fun m => (m.objection? content minScore).isNone).map
          fun m => m.finding content location := by
  induction ms with
  | nil => rfl
  | cons m ms ih =>
      rw [triage]
      cases ho : m.objection? content minScore with
      | some reason => simp only [ih, List.filter_cons, ho, Option.isNone_some, Bool.false_eq_true,
          if_false]
      | none => simp only [ih, List.filter_cons, ho, Option.isNone_none, if_true, List.map_cons]

/-! ## Scores from divisions -/

theorem score_of_divides {content location : Text} {minScore : Int} {seen : List FindingKey}
    {ms : List Match} {d : Division}
    (h : Divides seen (triage content location minScore ms).candidates d) :
    score content location minScore seen ms =
      .ok ⟨d.kept, (triage content location minScore ms).suppressed
        ++ d.duplicates.map (·.asDuplicate location), d.seen⟩ := by
  rw [score, deduplicate_of_divides h]
  rfl

/-- The candidates at a valid location can be divided. -/
theorem exists_divides_triage {content location : Text} {minScore : Int} {ms : List Match}
    (h : Location.Valid location) (seen : List FindingKey) :
    ∃ d, Divides seen (triage content location minScore ms).candidates d := by
  refine exists_divides (fun f hf => ?_) seen
  rw [triage_location f hf]
  exact h

/-! ## The matches of some rules -/

/-- The part of a triage that belongs to the rules in `p`. -/
def Triage.restrict (p : String → Bool) (t : Triage) : Triage :=
  ⟨t.candidates.filter fun f => p f.found.ruleId, t.suppressed.filter fun s => p s.ruleId⟩

theorem triage_restrict (p : String → Bool) (content location : Text) (minScore : Int)
    (ms : List Match) :
    triage content location minScore (ms.filter fun m => p m.ruleId)
      = (triage content location minScore ms).restrict p := by
  induction ms with
  | nil => rfl
  | cons m ms ih =>
      rw [List.filter_cons]
      by_cases hp : p m.ruleId
      · rw [if_pos hp, triage, triage, ih]
        cases m.objection? content minScore with
        | some reason => simp only [Triage.restrict, List.filter_cons, if_pos hp]
        | none => simp only [Triage.restrict, List.filter_cons, Match.finding, if_pos hp]
      · rw [if_neg hp, triage, ih]
        cases m.objection? content minScore with
        | some reason => simp only [Triage.restrict, List.filter_cons, if_neg hp]
        | none => simp only [Triage.restrict, List.filter_cons, Match.finding, if_neg hp]

/-- The suppressions of duplicates carry the rules of the findings. -/
theorem map_asDuplicate_filter (p : String → Bool) (location : Text) (fs : List Finding) :
    (fs.filter fun f => p f.found.ruleId).map (·.asDuplicate location)
      = (fs.map (·.asDuplicate location)).filter fun s => p s.ruleId := by
  rw [List.filter_map]
  rfl

end SecretScan
