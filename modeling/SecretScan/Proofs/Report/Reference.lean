import Mathlib.Data.List.Forall2
import Mathlib.Data.List.Nodup
import SecretScan.Report.Sarif

/-!
# References in reports for code scanning services

A report for code scanning services declares rules and lists results that refer to them, and a
service refuses it if a result refers to a rule that is declared twice or not at all. The rules are
declared while the findings are gone through, each where it is first met (`Sarif.firsts`). What has
been met is kept on the way, so the induction has to say what a list of findings declares behind
others: the first finding of each rule that is not known yet (`map_ruleId_firsts`,
`find?_of_mem_firsts`). What a service reads from the report follows from that (`toSarif_refers`).
-/

namespace SecretScan

/-! ## Reading a report -/

namespace Json

/-- What is found by following the fields `names` one after the other. -/
def follow? (j : Json) : List String → Option Json
  | [] => some j
  | name :: names => (j.get? name).bind fun inner => inner.follow? names

/-- The text that is found by following fields. -/
def textAt? (j : Json) (names : List String) : Option String :=
  match j.follow? names with
  | some (text s) => some s
  | _ => none

/-- The items of the array that is found by following fields. -/
def itemsAt? (j : Json) (names : List String) : Option (List Json) :=
  match j.follow? names with
  | some (list items) => some items
  | _ => none

/-- The only item of the array that is found by following fields. -/
def onlyAt? (j : Json) (names : List String) : Option Json :=
  match j.itemsAt? names with
  | some [item] => some item
  | _ => none

end Json

namespace Sarif

/-- The rules that a report declares. -/
def rules? (report : Json) : Option (List Json) :=
  (report.onlyAt? ["runs"]).bind (·.itemsAt? ["tool", "driver", "rules"])

/-- The results that a report lists. -/
def results? (report : Json) : Option (List Json) :=
  (report.onlyAt? ["runs"]).bind (·.itemsAt? ["results"])

/-- How grave a score is in words: from 85 on it is an error, below 70 no more than a note. -/
inductive Grades (score : Nat) : String → Prop where
  | error : 85 ≤ score → Grades score "error"
  | warning : 70 ≤ score → score < 85 → Grades score "warning"
  | note : score < 70 → Grades score "note"

/-- The declaration of a rule has the identifier of the rule of a finding, and its name and how
grave it is are those of the finding. -/
structure Declares (rule : Json) (f : Finding) : Prop where
  id : rule.textAt? ["id"] = some f.found.ruleId
  name : rule.textAt? ["name"] = some f.found.ruleName
  description : rule.textAt? ["shortDescription", "text"] = some f.found.ruleName
  level : ∃ level, rule.textAt? ["defaultConfiguration", "level"] = some level
    ∧ Grades f.score.val level
  severity : rule.textAt? ["properties", "security-severity"] = some (gradeOf f.score)

/-- A result refers to the rule of a finding, is as grave as the score that it states, which is that
of the finding, and lies in a line that is counted from 1. -/
structure Reports (result : Json) (f : Finding) : Prop where
  rule : result.textAt? ["ruleId"] = some f.found.ruleId
  score : result.follow? ["properties", "confidence"] = some (.nat f.score.val)
  level : ∃ level, result.textAt? ["level"] = some level ∧ Grades f.score.val level
  line : ∃ place line, result.onlyAt? ["locations"] = some place
    ∧ place.follow? ["physicalLocation", "region", "startLine"] = some (.int line)
    ∧ 1 ≤ line ∧ (1 ≤ f.line → line = f.line)

theorem grades_severityOf (score : Score) : Grades score.val (severityOf score).name := by
  unfold severityOf
  split
  · next h => exact .error h
  · next h =>
      split
      · next h' => exact .warning h' (Nat.not_le.mp h)
      · next h' => exact .note (Nat.not_le.mp h')

theorem declares_ruleOf (f : Finding) : Declares (ruleOf f) f where
  id := rfl
  name := rfl
  description := rfl
  level := ⟨_, rfl, grades_severityOf f.score⟩
  severity := rfl

theorem reports_resultOf (f : Finding) : Reports (resultOf f) f where
  rule := rfl
  score := rfl
  level := ⟨_, rfl, grades_severityOf f.score⟩
  line := ⟨placeOf f, max f.line 1, rfl, rfl, Int.le_max_right _ _, fun h => Int.max_eq_left h⟩

theorem rules?_toSarif (r : BatchResult) :
    rules? r.toSarif = some ((firsts [] r.findings).map ruleOf) := rfl

theorem results?_toSarif (r : BatchResult) :
    results? r.toSarif = some (r.findings.map resultOf) := rfl

/-! ## First findings -/

variable {known : List String} {f : Finding} {fs : List Finding}

/-- The first findings come in the order in which their rules are first met. -/
theorem map_ruleId_firsts (known : List String) (fs : List Finding) :
    (firsts known fs).map (·.found.ruleId)
      = ((fs.map (·.found.ruleId)).filter fun id => id ∉ known).eraseDups := by
  induction fs generalizing known with
  | nil => rfl
  | cons f fs ih =>
      rw [firsts, List.map_cons]
      by_cases hknown : f.found.ruleId ∈ known
      · rw [if_pos hknown, ih, List.filter_cons_of_neg (by simpa using hknown)]
      · rw [if_neg hknown, List.map_cons, ih, List.filter_cons_of_pos (by simpa using hknown),
          List.eraseDups_cons, List.filter_filter]
        -- the rule of this finding is known to those behind it
        refine congrArg (fun ids => f.found.ruleId :: List.eraseDups ids) ?_
        refine List.filter_congr fun id _ => ?_
        rw [Bool.eq_iff_iff]
        simp

/-- A first finding is met before all others of its rule, which was not known. -/
theorem find?_of_mem_firsts (h : f ∈ firsts known fs) :
    f.found.ruleId ∉ known
      ∧ fs.find? (fun g => g.found.ruleId = f.found.ruleId) = some f := by
  induction fs generalizing known with
  | nil => cases h
  | cons g fs ih =>
      rw [firsts] at h
      by_cases hknown : g.found.ruleId ∈ known
      · rw [if_pos hknown] at h
        obtain ⟨hnew, hfind⟩ := ih h
        have hne : g.found.ruleId ≠ f.found.ruleId := fun heq => hnew (heq ▸ hknown)
        exact ⟨hnew, by rw [List.find?_cons_of_neg (by simpa using hne), hfind]⟩
      · rw [if_neg hknown] at h
        rcases List.mem_cons.mp h with rfl | h
        · exact ⟨hknown, List.find?_cons_of_pos (by simp)⟩
        · obtain ⟨hnew, hfind⟩ := ih h
          have hne : g.found.ruleId ≠ f.found.ruleId := fun heq => hnew (heq ▸ List.mem_cons_self)
          exact ⟨fun hmem => hnew (List.mem_cons_of_mem _ hmem),
            by rw [List.find?_cons_of_neg (by simpa using hne), hfind]⟩

/-- No rule has two first findings. -/
theorem nodup_map_ruleId_firsts (known : List String) (fs : List Finding) :
    ((firsts known fs).map (·.found.ruleId)).Nodup := by
  induction fs generalizing known with
  | nil => exact List.nodup_nil
  | cons f fs ih =>
      rw [firsts]
      split
      · exact ih known
      · rw [List.map_cons, List.nodup_cons]
        refine ⟨fun hmem => ?_, ih _⟩
        obtain ⟨g, hg, hid⟩ := List.mem_map.mp hmem
        exact (find?_of_mem_firsts hg).1 (hid ▸ List.mem_cons_self)

end Sarif

open Sarif in
/--
**The references of a report for code scanning services.**

The report lists one result for each finding, in their order; it refers to the rule of the finding,
is as grave as its own score, and lies in a line of at least 1. The identifiers of the rules that it
declares are pairwise different, come in the order in which they first appear among the findings,
and are exactly those that results refer to. What a rule is declared with is taken from the first
finding that has its identifier.
-/
theorem BatchResult.toSarif_refers (r : BatchResult) :
    ∃ rules results, rules? r.toSarif = some rules ∧ results? r.toSarif = some results
      ∧ List.Forall₂ Reports results r.findings
      ∧ (rules.map (·.textAt? ["id"])).Nodup
      ∧ rules.map (·.textAt? ["id"]) = ((r.findings.map (·.found.ruleId)).eraseDups).map some
      ∧ (∀ id, id ∈ rules.map (·.textAt? ["id"]) ↔ id ∈ results.map (·.textAt? ["ruleId"]))
      ∧ ∀ rule ∈ rules, ∃ f, Declares rule f
        ∧ r.findings.find? (fun g => g.found.ruleId = f.found.ruleId) = some f := by
  have hids : ((firsts [] r.findings).map ruleOf).map (·.textAt? ["id"])
      = ((firsts [] r.findings).map (·.found.ruleId)).map some := by
    rw [List.map_map, List.map_map]
    exact List.map_congr_left fun f _ => (declares_ruleOf f).id
  have hrefs : (r.findings.map resultOf).map (·.textAt? ["ruleId"])
      = (r.findings.map (·.found.ruleId)).map some := by
    rw [List.map_map, List.map_map]
    exact List.map_congr_left fun f _ => (reports_resultOf f).rule
  have horder : (firsts [] r.findings).map (·.found.ruleId)
      = (r.findings.map (·.found.ruleId)).eraseDups := by
    rw [map_ruleId_firsts]
    simp
  refine ⟨_, _, rules?_toSarif r, results?_toSarif r, ?_, ?_, ?_, fun id => ?_, fun rule hrule => ?_⟩
  · rw [List.forall₂_map_left_iff]
    exact List.forall₂_same.mpr fun f _ => reports_resultOf f
  · rw [hids]
    exact (nodup_map_ruleId_firsts [] r.findings).map fun _ _ => Option.some.inj
  · rw [hids, horder]
  · rw [hids, hrefs, horder]
    simp only [List.mem_map, List.mem_eraseDups]
  · obtain ⟨f, hf, rfl⟩ := List.mem_map.mp hrule
    exact ⟨f, declares_ruleOf f, (find?_of_mem_firsts hf).2⟩

end SecretScan
