import Mathlib.Data.List.Forall2
import SecretScan.Proofs.Finding.Score
import SecretScan.Proofs.Scan.Run

/-!
# The result of a batch from what its items contribute

A batch that is not told to stop runs every unit, and with valid locations no item is lost. Then its
result is known from two things, both of them relations that hold of exactly one value: what each
item contributes (`Contributes`), and how contributions are joined (`Merges`). The main statement is
`scanBatch_of_merges`. What is to be said about whole batches is said about these two, by induction
over the items.
-/

namespace SecretScan

/-! ## What an item contributes -/

theorem ItemRun.outcome_of_divides {run : ItemRun} {item : Item} {minScore : Int} {d : Division}
    (h : Divides [] (triage item.content item.location minScore
      (run.units.flatMap UnitResult.found)).candidates d) :
    run.outcome item minScore = .ok
      { findings := d.kept
        suppressed := (triage item.content item.location minScore
          (run.units.flatMap UnitResult.found)).suppressed
            ++ d.duplicates.map (·.asDuplicate item.location)
        failures := unitFailures item.location run.units
        complete := run.complete } := by
  rw [outcome, score_of_divides h]
  rfl

/-- What an item contributes when all rules are applied to it: its findings, without duplicates
among themselves, its other matches, and its failures. -/
inductive Contributes (options : Options) (rules : List CompiledRule) (minScore : Int)
    (item : Item) : ItemOutcome → Prop where
  | intro {d : Division} :
      Divides [] (triage item.content item.location minScore
        (scan options item.content rules)).candidates d →
      Contributes options rules minScore item
        { findings := d.kept
          suppressed := (triage item.content item.location minScore
            (scan options item.content rules)).suppressed
              ++ d.duplicates.map (·.asDuplicate item.location)
          failures := unitFailures item.location (scanUnits options item.content rules)
          complete := true }

theorem Contributes.exists (options : Options) (rules : List CompiledRule) (minScore : Int)
    {item : Item} (h : Location.Valid item.location) :
    ∃ outcome, Contributes options rules minScore item outcome := by
  obtain ⟨d, hd⟩ : ∃ d, Divides [] (triage item.content item.location minScore
      (scan options item.content rules)).candidates d := exists_divides_triage h []
  exact ⟨_, .intro hd⟩

variable {options : Options} {rules : List CompiledRule} {minScore : Int}

theorem Contributes.outcome_eq {item : Item} {outcome : ItemOutcome} {run : ItemRun}
    (h : Contributes options rules minScore item outcome)
    (hunits : run.units = allUnits options item.content rules) (hall : run.complete = true) :
    run.outcome item minScore = .ok outcome := by
  cases h with
  | intro hd =>
      rw [← allUnits_found, ← hunits] at hd ⊢
      rw [ItemRun.outcome_of_divides hd, hall, hunits, allUnits_failures]

/-- The findings of an item lie where its content comes from. -/
theorem Contributes.location {item : Item} {outcome : ItemOutcome}
    (h : Contributes options rules minScore item outcome) :
    ∀ f ∈ outcome.findings, f.location = item.location := by
  cases h with
  | intro hd => exact fun f hf => triage_location f (hd.kept_sublist.subset hf)

/-! ## Joining contributions -/

/-- `Merges seen outcomes s`: given the keys `seen`, contributions are joined to `s`. -/
inductive Merges : List FindingKey → List ItemOutcome → Scored → Prop where
  | nil {seen : List FindingKey} : Merges seen [] ⟨[], [], seen⟩
  | cons {seen : List FindingKey} {outcome : ItemOutcome} {outcomes : List ItemOutcome}
      {d : Division} {rest : Scored} :
      Divides seen outcome.findings d → Merges d.seen outcomes rest →
      Merges seen (outcome :: outcomes)
        { findings := d.kept ++ rest.findings
          suppressed := outcome.suppressed ++ d.duplicates.map (fun f => f.asDuplicate f.location)
            ++ rest.suppressed
          seen := rest.seen }

theorem mergeOutcomes_of_merges {seen : List FindingKey} {outcomes : List ItemOutcome} {s : Scored}
    (h : Merges seen outcomes s) : mergeOutcomes seen outcomes = .ok s := by
  induction h with
  | nil => rfl
  | cons hd _ ih =>
      rw [mergeOutcomes, deduplicate_of_divides hd]
      simp only [bind, Except.bind, pure, Except.pure]
      rw [ih]

theorem exists_merges {outcomes : List ItemOutcome}
    (h : ∀ o ∈ outcomes, ∀ f ∈ o.findings, Location.Valid f.location) :
    ∀ seen, ∃ s, Merges seen outcomes s := by
  induction outcomes with
  | nil => exact fun _ => ⟨_, .nil⟩
  | cons o outcomes ih =>
      intro seen
      obtain ⟨d, hd⟩ := exists_divides (h o List.mem_cons_self) seen
      obtain ⟨rest, hrest⟩ := ih (fun o' ho' => h o' (List.mem_cons_of_mem o ho')) d.seen
      exact ⟨_, .cons hd hrest⟩

/-! ## Whole batches -/

/-- Every item of a batch with valid locations contributes something, and it can be joined. -/
theorem exists_contributes_merges (options : Options) (rules : List CompiledRule) (minScore : Int)
    {items : List Item}
    (hloc : ∀ item ∈ items, Location.Valid item.location) :
    ∃ outcomes s, List.Forall₂ (Contributes options rules minScore) items outcomes
      ∧ Merges [] outcomes s := by
  have hall : ∃ outcomes, List.Forall₂ (Contributes options rules minScore) items outcomes
      ∧ ∀ o ∈ outcomes, ∀ f ∈ o.findings, Location.Valid f.location := by
    induction items with
    | nil => exact ⟨[], .nil, by simp⟩
    | cons item items ih =>
        obtain ⟨outcomes, hitems, hvalid⟩ :=
          ih (fun i hi => hloc i (List.mem_cons_of_mem item hi))
        have hitem := hloc item List.mem_cons_self
        obtain ⟨o, ho⟩ := Contributes.exists options rules minScore hitem
        refine ⟨o :: outcomes, .cons ho hitems, fun o' ho' => ?_⟩
        rcases List.mem_cons.mp ho' with rfl | ho'
        · intro f hf
          rw [ho.location f hf]
          exact hitem
        · exact hvalid o' ho'
  obtain ⟨outcomes, hitems, hvalid⟩ := hall
  obtain ⟨s, hs⟩ := exists_merges hvalid []
  exact ⟨outcomes, s, hitems, hs⟩

/-- In a run of all units, every item ends with what it contributes. -/
theorem outcomes_of_contributes {items : List Item} {outcomes : List ItemOutcome}
    {runs : List (Item × ItemRun)} (h : List.Forall₂ (Contributes options rules minScore) items
      outcomes)
    (hruns : runs.map (fun r => (r.1, r.2.units, r.2.complete))
      = items.map fun item => (item, allUnits options item.content rules, true)) :
    runs.map (fun r => (r.1, r.2.outcome r.1 minScore))
      = items.zip (outcomes.map .ok) := by
  induction h generalizing runs with
  | nil =>
      rw [List.map_nil, List.map_eq_nil_iff] at hruns
      subst hruns
      rfl
  | @cons item outcome items outcomes ho _ ih =>
      cases runs with
      | nil => cases hruns
      | cons r runs =>
          simp only [List.map_cons, List.cons.injEq, Prod.mk.injEq] at hruns
          obtain ⟨⟨hitem, hunits, hall⟩, hrest⟩ := hruns
          rw [List.map_cons, List.map_cons, List.zip_cons_cons, ih hrest, hitem,
            ho.outcome_eq hunits hall]

/-- The failures of a batch come item by item, and rule by rule within an item. -/
theorem Contributes.flatMap_failures {items : List Item} {outcomes : List ItemOutcome}
    (h : List.Forall₂ (Contributes options rules minScore) items outcomes) :
    outcomes.flatMap ItemOutcome.failures = items.flatMap fun item =>
      unitFailures item.location (scanUnits options item.content rules) := by
  induction h with
  | nil => rfl
  | cons ho _ ih =>
      rw [List.flatMap_cons, List.flatMap_cons, ih]
      cases ho
      rfl

/-- No outcome is lost. -/
theorem filterMap_toOption_zip {items : List Item} {outcomes : List ItemOutcome}
    (h : List.Forall₂ (Contributes options rules minScore) items outcomes) :
    (items.zip (outcomes.map (Except.ok : _ → Except LocationError ItemOutcome))).filterMap
        (fun t => t.2.toOption)
      = outcomes := by
  induction h with
  | nil => rfl
  | cons _ _ ih =>
      rw [List.map_cons, List.zip_cons_cons, List.filterMap_cons]
      exact congrArg (_ :: ·) ih

theorem Contributes.all_complete {items : List Item} {outcomes : List ItemOutcome}
    (h : List.Forall₂ (Contributes options rules minScore) items outcomes) :
    ∀ o ∈ outcomes, o.complete = true := by
  induction h with
  | nil => intro o ho; cases ho
  | cons ho _ ih =>
      intro o' ho'
      rcases List.mem_cons.mp ho' with rfl | ho'
      · cases ho; rfl
      · exact ih o' ho'

/--
**The result of a batch.**

A batch that is not told to stop reports the joined contributions of its items. The failures come
item by item, all items count as scanned, and the batch is not marked as stopped.
-/
theorem scanBatch_of_merges {settings : BatchSettings} {items : List Item}
    {outcomes : List ItemOutcome} {s : Scored}
    (hitems : List.Forall₂ (Contributes settings.options rules settings.minScore) items outcomes)
    (hs : Merges [] outcomes s) (hquiet : Undisturbed settings rules items) :
    (scanBatch settings rules items).1 = .ok
      { findings := s.findings
        suppressed := s.suppressed
        failures := outcomes.flatMap ItemOutcome.failures
        itemsScanned := items.length
        cancelled := false
        duration := 0 } := by
  have htried := outcomes_of_contributes hitems (runItems_of_quiet hquiet)
  have hall := Contributes.all_complete hitems
  have hok : ∀ t ∈ items.zip (outcomes.map (Except.ok : _ → Except LocationError ItemOutcome)),
      ∃ o, t.2 = .ok o := by
    intro t ht
    obtain ⟨o, -, ho⟩ := List.mem_map.mp (List.of_mem_zip ht).2
    exact ⟨o, ho.symm⟩
  have hscanned : (outcomes.filter ItemOutcome.complete).length = items.length := by
    rw [List.filter_eq_self.mpr hall, hitems.length_eq]
  have hleft : (outcomes.any fun o => !o.complete) = false := by
    rw [List.any_eq_false]
    intro o ho
    rw [hall o ho]
    decide
  unfold scanBatch reportRuns
  simp only [htried, filterMap_toOption_zip hitems, mergeOutcomes_of_merges hs, hscanned, hleft,
    Bool.and_false]
  -- no item is lost, so all failures are failures of units
  rw [List.filterMap_eq_nil_iff.mpr, List.nil_append]
  intro t ht
  obtain ⟨o, ho⟩ := hok t ht
  rw [ho]

end SecretScan
