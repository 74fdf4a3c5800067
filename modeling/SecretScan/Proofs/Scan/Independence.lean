import SecretScan.Proofs.Scan.Merge

/-!
# Rules do not interact

What a batch tells about a rule does not depend on the other rules, whatever these find and however
they fail. A unit finds matches of its own rule only, a match is judged on its own, and a key
carries the rule; so at every stage the values for some rules are those for all rules, restricted
(`contributes_restrict`, `merges_restrict`). For the batch this gives `scanBatch_restrict`.
-/

namespace SecretScan

/-! ## Rule sets inside rule sets -/

/-- A list with distinct keys is known from any larger one by its keys. -/
theorem eq_filter_of_sublist {α : Type} {key : α → String} {xs ys : List α} (h : xs.Sublist ys)
    (hys : (ys.map key).Nodup) : xs = ys.filter fun a => (xs.map key).contains (key a) := by
  induction h with
  | slnil => rfl
  | @cons xs ys a hsub ih =>
      rw [List.map_cons, List.nodup_cons] at hys
      have ha : ¬ (xs.map key).contains (key a) = true := by
        rw [List.contains_iff_mem]
        exact fun hm => hys.1 ((hsub.map key).subset hm)
      rw [List.filter_cons, if_neg ha]
      exact ih hys.2
  | @cons_cons xs ys a hsub ih =>
      rw [List.map_cons, List.nodup_cons] at hys
      have ha : ((a :: xs).map key).contains (key a) = true := by
        rw [List.contains_iff_mem]
        exact List.mem_cons_self
      rw [List.filter_cons, if_pos ha]
      refine congrArg (a :: ·) ((ih hys.2).trans (List.filter_congr fun b hb => ?_))
      -- a later entry has another key than `a`
      have hne : key b ≠ key a := fun e => hys.1 (e ▸ List.mem_map_of_mem hb)
      simp [hne]

/-- The entries of a catalogue inside another one are told apart by their keys. -/
theorem Catalog.entries_eq_filter {α : Type} {key : α → String} {c c' : Catalog α key}
    (h : c'.entries.Sublist c.entries) :
    c'.entries = c.entries.filter fun a => c'.contains (key a) :=
  eq_filter_of_sublist h c.distinct

/-! ## Contributions of some rules -/

/-- The part of what an item contributes that belongs to the rules in `p`. -/
def ItemOutcome.restrict (p : String → Bool) (o : ItemOutcome) : ItemOutcome :=
  { findings := o.findings.filter fun f => p f.found.ruleId
    suppressed := o.suppressed.filter fun s => p s.ruleId
    failures := o.failures.filter fun f => p f.ruleId
    complete := o.complete }

/-- The part of scored matches that belongs to the rules in `p`. -/
def Scored.restrict (p : String → Bool) (s : Scored) : Scored :=
  ⟨s.findings.filter fun f => p f.found.ruleId, s.suppressed.filter fun s => p s.ruleId,
    s.seen.filter fun key => p key.ruleId⟩

section

variable (p : String → Bool) {options : Options} {rules : List CompiledRule} {minScore : Int}

theorem scan_filter (content : Text) :
    scan options content (rules.filter fun r => p r.id)
      = (scan options content rules).filter fun m => p m.ruleId := by
  rw [← allUnits_found, ← allUnits_found, found_filter]

theorem scanUnits_failures_filter (content location : Text) :
    unitFailures location (scanUnits options content (rules.filter fun r => p r.id))
      = (unitFailures location (scanUnits options content rules)).filter fun f => p f.ruleId := by
  rw [← allUnits_failures, ← allUnits_failures, allUnits_filter, unitFailures_filter]

/-- Some rules contribute what they contribute among the others. -/
theorem contributes_restrict {item : Item} {o : ItemOutcome}
    (h : Contributes options rules minScore item o) :
    Contributes options (rules.filter fun r => p r.id) minScore item (o.restrict p) := by
  cases h with
  | @intro d hd =>
    have hd' := divides_restrict p hd
    have htriage := triage_restrict p item.content item.location minScore
      (scan options item.content rules)
    rw [← scan_filter] at htriage
    have hcandidates : (triage item.content item.location minScore
        (scan options item.content (rules.filter fun r => p r.id))).candidates
          = (triage item.content item.location minScore
            (scan options item.content rules)).candidates.filter fun f => p f.found.ruleId := by
      rw [htriage]
      rfl
    rw [← hcandidates, List.filter_nil] at hd'
    have hnew : Contributes options (rules.filter fun r => p r.id) minScore item _ := .intro hd'
    rw [htriage, scanUnits_failures_filter] at hnew
    simpa only [ItemOutcome.restrict, Division.restrict, Triage.restrict, List.filter_append,
      map_asDuplicate_filter] using hnew

/-- Contributions of some rules are joined as they are among the others. -/
theorem merges_restrict {seen : List FindingKey} {outcomes : List ItemOutcome} {s : Scored}
    (h : Merges seen outcomes s) :
    Merges (seen.filter fun key => p key.ruleId) (outcomes.map (·.restrict p)) (s.restrict p) := by
  induction h with
  | nil => exact .nil
  | @cons seen outcome outcomes d rest hd _ ih =>
      have hnew : Merges _ (outcome.restrict p :: _) _ := .cons (divides_restrict p hd) ih
      have hdup : (d.duplicates.filter fun f => p f.found.ruleId).map
            (fun f => f.asDuplicate f.location)
          = (d.duplicates.map fun f => f.asDuplicate f.location).filter fun s => p s.ruleId := by
        rw [List.filter_map]
        rfl
      simpa only [Scored.restrict, Division.restrict, ItemOutcome.restrict, List.map_cons,
        List.filter_append, hdup] using hnew

theorem flatMap_failures_restrict (outcomes : List ItemOutcome) :
    (outcomes.map (·.restrict p)).flatMap ItemOutcome.failures
      = (outcomes.flatMap ItemOutcome.failures).filter fun f => p f.ruleId := by
  rw [List.filter_flatMap, List.flatMap_map]
  rfl

end

/-! ## Batches of some rules -/

/--
**Rules do not interact.**

Let a batch with valid locations not be told to stop, and take some of its rules in the same order.
The batch with these rules alone has a result too: it reports, suppresses and records as failed
exactly what the batch with all rules does for them, in the same order.
-/
theorem scanBatch_restrict (settings : BatchSettings) (all part : RuleSet)
    (hpart : part.rules.entries.Sublist all.rules.entries) (items : List Item)
    (hloc : ∀ item ∈ items, Location.Valid item.location)
    (hquiet : Undisturbed settings all.rules.entries items) :
    ∃ r r' : BatchResult,
      (scanBatch settings all.rules.entries items).1 = .ok r
      ∧ (scanBatch settings part.rules.entries items).1 = .ok r'
      ∧ r'.findings = r.findings.filter (fun f => part.rules.contains f.found.ruleId)
      ∧ r'.suppressed = r.suppressed.filter (fun s => part.rules.contains s.ruleId)
      ∧ r'.failures = r.failures.filter (fun f => part.rules.contains f.ruleId) := by
  obtain ⟨outcomes, s, hitems, hs⟩ := exists_contributes_merges settings.options
    all.rules.entries settings.minScore hloc
  -- fewer units ask the batch to stop less often, so the smaller batch runs to its end too
  have hquiet' := hquiet.of_sublist hpart
  have hentries : part.rules.entries
      = all.rules.entries.filter fun r => part.rules.contains r.id :=
    Catalog.entries_eq_filter hpart
  have hitems' : List.Forall₂ (Contributes settings.options part.rules.entries settings.minScore)
      items (outcomes.map (·.restrict part.rules.contains)) := by
    rw [List.forall₂_map_right_iff, hentries]
    exact hitems.imp fun _ _ h => contributes_restrict _ h
  refine ⟨_, _, scanBatch_of_merges hitems hs hquiet,
    scanBatch_of_merges hitems' (merges_restrict _ hs) hquiet', rfl, rfl, ?_⟩
  exact flatMap_failures_restrict _ outcomes

/-- A rule whose searches run out of time. -/
def slowRule : CompiledRule :=
  ⟨.ofPattern "slow" "Slow" "(a+)+$".toList, ⟨"(a+)+$".toList, ['g'], false⟩, .failing .timeout⟩

/-- A rule that finds a `k` with a number. -/
def keyRule : CompiledRule :=
  ⟨.ofPattern "key" "Key" "k[0-9]+".toList, ⟨"k[0-9]+".toList, ['g'], false⟩,
    match Regex.parse ⟨false, false, false⟩ "k[0-9]+".toList with
    | .ok program => .ofProgram program
    | .error _ => .failing .timeout⟩

/-- A rule that runs out of time on every item takes nothing from another one. -/
theorem scanBatch_restrict_slow :
    let all : RuleSet := ⟨⟨[slowRule, keyRule], by decide⟩, []⟩
    let part : RuleSet := ⟨⟨[keyRule], by decide⟩, []⟩
    let items : List Item :=
      [⟨"k12 k12 k3".toList, "a.py?x".toList⟩, ⟨"k12".toList, "a.py".toList⟩]
    part.rules.entries.Sublist all.rules.entries
      ∧ (∀ item ∈ items, Location.Valid item.location)
      ∧ Undisturbed .default all.rules.entries items
      ∧ ∃ r r' : BatchResult,
        (scanBatch .default all.rules.entries items).1 = .ok r
        ∧ (scanBatch .default part.rules.entries items).1 = .ok r'
        ∧ r'.findings = r.findings.filter (fun f => part.rules.contains f.found.ruleId)
        ∧ r'.suppressed = r.suppressed.filter (fun s => part.rules.contains s.ruleId)
        ∧ r'.failures = r.failures.filter (fun f => part.rules.contains f.ruleId) :=
  have hsub : [keyRule].Sublist [slowRule, keyRule] := (List.Sublist.refl _).cons _
  ⟨hsub, by decide +kernel, by decide +kernel,
    scanBatch_restrict .default ⟨⟨[slowRule, keyRule], by decide⟩, []⟩
      ⟨⟨[keyRule], by decide⟩, []⟩ hsub _ (by decide +kernel) (by decide +kernel)⟩

end SecretScan
