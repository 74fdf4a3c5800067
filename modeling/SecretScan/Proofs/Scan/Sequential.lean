import SecretScan.Proofs.Scan.Merge

/-!
# A batch is a sequential scan

A batch scores each item with keys of its own and removes what other items have reported only when
the items are joined. This is the same as scoring the items one after the other with one list of
keys that is handed on (`scoreInTurn`): on both ways a finding is kept if it is the first of its key
in the whole batch. The two ways differ in when they notice a duplicate, so they tell of the
suppressed matches in different orders.
-/

namespace SecretScan

/-- Scans and scores items one after the other; the keys of all findings so far are handed on. -/
def scoreInTurn (options : Options) (rules : List CompiledRule) (minScore : Int) :
    List FindingKey → List Item → Except LocationError Scored
  | seen, [] => .ok ⟨[], [], seen⟩
  | seen, item :: items => do
    let s ← score item.content item.location minScore seen (scan options item.content rules)
    let rest ← scoreInTurn options rules minScore s.seen items
    return ⟨s.findings ++ rest.findings, s.suppressed ++ rest.suppressed, rest.seen⟩

variable {options : Options} {rules : List CompiledRule} {minScore : Int}

/-- The duplicates of one item are suppressed alike wherever they are noticed. -/
theorem map_asDuplicate_location {fs : List Finding} {location : Text}
    (h : ∀ f ∈ fs, f.location = location) :
    fs.map (fun f => f.asDuplicate f.location) = fs.map (·.asDuplicate location) :=
  List.map_congr_left fun f hf => by rw [h f hf]

/-- **Joining contributions is scoring in turn**, up to the order of what is suppressed. -/
theorem merges_scoreInTurn {items : List Item} {outcomes : List ItemOutcome}
    (hitems : List.Forall₂ (Contributes options rules minScore) items outcomes)
    {seen : List FindingKey} {s : Scored} (hs : Merges seen outcomes s) :
    ∃ t, scoreInTurn options rules minScore seen items = .ok t
      ∧ s.findings = t.findings ∧ s.suppressed.Perm t.suppressed := by
  induction hitems generalizing seen s with
  | nil =>
      cases hs with
      | nil => exact ⟨_, rfl, rfl, List.Perm.nil⟩
  | @cons item outcome items outcomes ho _ ih =>
      cases hs with
      | @cons _ _ _ d' rest hd' hrest =>
        have hloc : ∀ f ∈ d'.duplicates, f.location = item.location :=
          fun f hf => ho.location f (hd'.duplicates_sublist.subset hf)
        cases ho with
        | @intro d hd =>
          obtain ⟨d₁, d₂, h₁, h₂, hkept, hseen, hperm⟩ := divides_nested hd (List.nil_subset seen)
          obtain rfl := hd'.unique h₁
          obtain ⟨t, ht, hfindings, hsuppressed⟩ := ih hrest
          refine ⟨⟨d₂.kept ++ t.findings,
            (triage item.content item.location minScore
              (scan options item.content rules)).suppressed
                ++ d₂.duplicates.map (·.asDuplicate item.location) ++ t.suppressed, t.seen⟩,
            ?_, ?_, ?_⟩
          · rw [scoreInTurn, score_of_divides h₂, hseen]
            simp only [bind, Except.bind, pure, Except.pure]
            rw [ht]
          · simp only [hkept, hfindings]
          · -- each duplicate of the item is noticed on one of the two levels
            have hdup : (d.duplicates.map (·.asDuplicate item.location)
                ++ d'.duplicates.map (fun f => f.asDuplicate f.location)).Perm
                  (d₂.duplicates.map (·.asDuplicate item.location)) := by
              rw [map_asDuplicate_location hloc, ← List.map_append]
              exact (hperm.map _).symm
            refine List.Perm.append ?_ hsuppressed
            rw [List.append_assoc]
            exact hdup.append_left _

/--
**A batch is a sequential scan.**

A batch with valid locations that is not told to stop has a result. It reports the findings of the
items scored one after the other with one list of keys, in that order. It suppresses the same
matches. Its failures are those of the units of the first item, rule by rule, then those of the
second one, and so on. All items count as scanned, and the batch is not marked as stopped.
-/
theorem scanBatch_eq_scoreInTurn (settings : BatchSettings) (rules : List CompiledRule)
    (items : List Item) (hloc : ∀ item ∈ items, Location.Valid item.location)
    (hquiet : Undisturbed settings rules items) :
    ∃ (r : BatchResult) (s : Scored),
      (scanBatch settings rules items).1 = .ok r
      ∧ scoreInTurn settings.options rules settings.minScore [] items = .ok s
      ∧ r.findings = s.findings
      ∧ r.suppressed.Perm s.suppressed
      ∧ r.failures = items.flatMap (fun item =>
          unitFailures item.location (scanUnits settings.options item.content rules))
      ∧ r.itemsScanned = items.length
      ∧ r.cancelled = false := by
  obtain ⟨outcomes, merged, hitems, hmerged⟩ := exists_contributes_merges settings.options rules
    settings.minScore hloc
  obtain ⟨s, hs, hfindings, hsuppressed⟩ := merges_scoreInTurn hitems hmerged
  exact ⟨_, s, scanBatch_of_merges hitems hmerged hquiet, hs, hfindings, hsuppressed,
    Contributes.flatMap_failures hitems, rfl, rfl⟩

/-- A secret that stands twice in one item, in a second fetch of the same file, and in a file of its
own; the third item has no content. -/
def refetchedItems : List Item :=
  [⟨"k12 k12 k3".toList, "a.py?x".toList⟩, ⟨"k12".toList, "a.py#top".toList⟩,
    ⟨[], "a.py".toList⟩, ⟨"k12".toList, "b.py".toList⟩]

theorem scanBatch_eq_scoreInTurn_refetched :
    let rules := (compileAll [.ofPattern "key" "Key" "k[0-9]+".toList]).1.rules.entries
    (∀ item ∈ refetchedItems, Location.Valid item.location)
      ∧ Undisturbed .default rules refetchedItems
      ∧ ∃ (r : BatchResult) (s : Scored),
        (scanBatch .default rules refetchedItems).1 = .ok r
        ∧ scoreInTurn .default rules defaultMinScore [] refetchedItems = .ok s
        ∧ r.findings = s.findings
        ∧ r.suppressed.Perm s.suppressed
        ∧ r.failures = refetchedItems.flatMap (fun item =>
            unitFailures item.location (scanUnits .default item.content rules))
        ∧ r.itemsScanned = 4
        ∧ r.cancelled = false :=
  ⟨by decide +kernel, by decide +kernel,
    scanBatch_eq_scoreInTurn .default _ refetchedItems (by decide +kernel) (by decide +kernel)⟩

end SecretScan
