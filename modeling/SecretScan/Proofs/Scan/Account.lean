import SecretScan.Proofs.Scan.Merge

/-!
# The account of a batch

What a batch tells can be read off its runs, whether or not it is told to stop and whatever its
locations are. An item whose location is invalid is lost once it has something to report; every
other item yields an outcome. The findings of the batch are the first ones of each key among all
that its items put forward, in the order of the items: duplicates inside an item and duplicates
across items make no difference. These are the fields of `Account`, and every batch has such an
account (`exists_account`).
-/

namespace SecretScan

/-- The runs of a batch, item by item. -/
def batchRuns (settings : BatchSettings) (rules : List CompiledRule) (items : List Item) :
    List (Item × ItemRun) :=
  (runItems settings.options rules settings.signal items).1

/-! ## Items that are lost -/

/-- The candidates for a report among the matches of units. -/
def candidatesOf (minScore : Int) (item : Item) (units : List UnitResult) : List Finding :=
  (triage item.content item.location minScore (units.flatMap UnitResult.found)).candidates

/-- Whether an item is lost: it has something to report, but its location is invalid. -/
def isLost (minScore : Int) (item : Item) (units : List UnitResult) : Bool :=
  !decide (Location.Valid item.location) && !(candidatesOf minScore item units).isEmpty

/-- What an item puts forward for the report. -/
def putForward (minScore : Int) (item : Item) (units : List UnitResult) : List Finding :=
  if Location.Valid item.location then candidatesOf minScore item units else []

/-- What an item puts forward when all rules are applied to it. -/
def forwardOf (settings : BatchSettings) (rules : List CompiledRule) (item : Item) : List Finding :=
  putForward settings.minScore item (allUnits settings.options item.content rules)

/-- The failure that is recorded for an item that is lost. -/
def lossOf (item : Item) : UnitFailure :=
  ⟨"*", item.location, invalidLocation⟩

variable {minScore : Int}

theorem candidatesOf_location {item : Item} {units : List UnitResult} :
    ∀ f ∈ candidatesOf minScore item units, f.location = item.location :=
  triage_location

theorem isLost_of_valid {item : Item} (h : Location.Valid item.location)
    (units : List UnitResult) : isLost minScore item units = false := by
  simp [isLost, h]

/-- An item that is not lost puts forward all its candidates. -/
theorem putForward_of_not_lost {item : Item} {units : List UnitResult}
    (h : isLost minScore item units = false) :
    putForward minScore item units = candidatesOf minScore item units := by
  unfold putForward
  by_cases hv : Location.Valid item.location
  · rw [if_pos hv]
  · rw [if_neg hv]
    simpa [isLost, hv] using h

theorem putForward_of_lost {item : Item} {units : List UnitResult}
    (h : isLost minScore item units = true) : putForward minScore item units = [] := by
  unfold putForward
  refine if_neg fun hv => ?_
  rw [isLost_of_valid hv] at h
  cases h

theorem putForward_location {item : Item} {units : List UnitResult} :
    ∀ f ∈ putForward minScore item units, f.location = item.location := by
  unfold putForward
  split
  · exact candidatesOf_location
  · exact nofun

/-- What an item yields: its findings are the first ones of each key among what it puts forward. -/
structure Yields (minScore : Int) (x : Item × ItemRun) (o : ItemOutcome) : Prop where
  /-- The findings are those put forward, without duplicates among themselves. -/
  findings : ∃ d, Divides [] (putForward minScore x.1 x.2.units) d ∧ o.findings = d.kept
  /-- The failures are those of the units. -/
  failures : o.failures = unitFailures x.1.location x.2.units
  /-- All rules were run exactly if the run is complete. -/
  complete : o.complete = x.2.complete

theorem ItemRun.outcome_of_lost {run : ItemRun} {item : Item}
    (h : isLost minScore item run.units = true) : ∃ e, run.outcome item minScore = .error e := by
  obtain ⟨hv, hne⟩ : ¬ Location.Valid item.location
      ∧ candidatesOf minScore item run.units ≠ [] := by
    simpa [isLost] using h
  obtain ⟨f, fs, hfs⟩ := List.exists_cons_of_ne_nil hne
  have hmem : f ∈ candidatesOf minScore item run.units := by
    rw [hfs]
    exact List.mem_cons_self
  have hloc : f.location = item.location := candidatesOf_location f hmem
  -- already the key of the first candidate cannot be formed
  obtain ⟨e, hkey⟩ : ∃ e, f.key = .error e := by
    unfold Finding.key
    rw [hloc]
    cases hn : Location.normalize item.location with
    | error e => exact ⟨e, rfl⟩
    | ok n => exact absurd ⟨n, hn⟩ hv
  have hdedup : deduplicate [] (candidatesOf minScore item run.units) = .error e := by
    rw [hfs, deduplicate, hkey]
    rfl
  unfold candidatesOf at hdedup
  refine ⟨e, ?_⟩
  rw [outcome, score, hdedup]
  rfl

theorem ItemRun.outcome_of_not_lost {run : ItemRun} {item : Item}
    (h : isLost minScore item run.units = false) :
    ∃ o, run.outcome item minScore = .ok o ∧ Yields minScore (item, run) o := by
  have hforward := putForward_of_not_lost h
  obtain ⟨d, hd⟩ : ∃ d, Divides [] (putForward minScore item run.units) d := by
    by_cases hv : Location.Valid item.location
    · rw [hforward]
      exact exists_divides_triage hv []
    · unfold putForward
      rw [if_neg hv]
      exact ⟨_, .nil⟩
  have hd' := hd
  rw [hforward] at hd'
  exact ⟨_, outcome_of_divides hd', ⟨d, hd, rfl⟩, rfl, rfl⟩

/-! ## Outcomes and their join -/

/-- The items that are not lost yield outcomes, and only these do. -/
theorem exists_outcomes (minScore : Int) (runs : List (Item × ItemRun)) :
    ∃ outcomes, runs.filterMap (fun x => (x.2.outcome x.1 minScore).toOption) = outcomes
      ∧ List.Forall₂ (Yields minScore)
          (runs.filter fun x => !isLost minScore x.1 x.2.units) outcomes := by
  induction runs with
  | nil => exact ⟨[], rfl, .nil⟩
  | cons x runs ih =>
      obtain ⟨outcomes, hmap, hyields⟩ := ih
      cases hl : isLost minScore x.1 x.2.units with
      | true =>
          obtain ⟨e, he⟩ := ItemRun.outcome_of_lost hl
          refine ⟨outcomes, ?_, ?_⟩
          · rw [List.filterMap_cons, he]
            exact hmap
          · simpa [List.filter_cons, hl] using hyields
      | false =>
          obtain ⟨o, ho, hy⟩ := ItemRun.outcome_of_not_lost hl
          refine ⟨o :: outcomes, ?_, ?_⟩
          · rw [List.filterMap_cons, ho]
            exact congrArg (o :: ·) hmap
          · simpa [List.filter_cons, hl] using List.Forall₂.cons hy hyields

/-- For each lost item, and for no other one, a failure is recorded. -/
theorem filterMap_lossOf (minScore : Int) (runs : List (Item × ItemRun)) :
    (runs.filterMap fun x =>
      match x.2.outcome x.1 minScore with
      | .ok _ => none
      | .error _ => some (lossOf x.1))
      = (runs.filter fun x => isLost minScore x.1 x.2.units).map fun x => lossOf x.1 := by
  induction runs with
  | nil => rfl
  | cons x runs ih =>
      cases hl : isLost minScore x.1 x.2.units with
      | true =>
          obtain ⟨e, he⟩ := ItemRun.outcome_of_lost hl
          rw [List.filterMap_cons, he, List.filter_cons, if_pos hl, List.map_cons, ih]
      | false =>
          obtain ⟨o, ho, -⟩ := ItemRun.outcome_of_not_lost hl
          rw [List.filterMap_cons, ho, List.filter_cons, if_neg (by simp [hl]), ih]

/-- A lost item puts nothing forward, so it does not matter that it yields no outcome. -/
theorem flatMap_putForward (minScore : Int) (runs : List (Item × ItemRun)) :
    (runs.filter fun x => !isLost minScore x.1 x.2.units).flatMap
        (fun x => putForward minScore x.1 x.2.units)
      = runs.flatMap fun x => putForward minScore x.1 x.2.units := by
  induction runs with
  | nil => rfl
  | cons x runs ih =>
      cases hl : isLost minScore x.1 x.2.units with
      | true => simp [hl, putForward_of_lost hl, ih]
      | false => simp [hl, ih]

/-- Joining outcomes is one division of all that is put forward. -/
theorem Yields.merges {runs : List (Item × ItemRun)} {outcomes : List ItemOutcome}
    (h : List.Forall₂ (Yields minScore) runs outcomes) (seen : List FindingKey) :
    ∃ s d, Merges seen outcomes s
      ∧ Divides seen (runs.flatMap fun x => putForward minScore x.1 x.2.units) d
      ∧ s.findings = d.kept := by
  induction h generalizing seen with
  | nil => exact ⟨_, _, .nil, .nil, rfl⟩
  | @cons x o runs outcomes hy _ ih =>
      obtain ⟨d, hd, hfindings⟩ := hy.findings
      -- the item knows its own duplicates only; those of earlier items are noticed in the join
      obtain ⟨d₁, d₂, h₁, h₂, hkept, hseen, -⟩ := divides_nested hd (List.nil_subset seen)
      obtain ⟨s, d', hs, hd', hsfindings⟩ := ih d₁.seen
      rw [← hfindings] at h₁
      rw [← hseen] at hd'
      refine ⟨_, _, .cons h₁ hs, h₂.append hd', ?_⟩
      simp only [hkept, hsfindings]

theorem Yields.failures_eq {runs : List (Item × ItemRun)} {outcomes : List ItemOutcome}
    (h : List.Forall₂ (Yields minScore) runs outcomes) :
    outcomes.flatMap ItemOutcome.failures
      = runs.flatMap fun x => unitFailures x.1.location x.2.units := by
  induction h with
  | nil => rfl
  | cons hy _ ih => rw [List.flatMap_cons, List.flatMap_cons, ih, hy.failures]

theorem Yields.complete_eq {runs : List (Item × ItemRun)} {outcomes : List ItemOutcome}
    (h : List.Forall₂ (Yields minScore) runs outcomes) :
    outcomes.map ItemOutcome.complete = runs.map fun x => x.2.complete := by
  induction h with
  | nil => rfl
  | cons hy _ ih => rw [List.map_cons, List.map_cons, ih, hy.complete]

/-! ## Accounts -/

/-- What the result of a batch tells about its runs. -/
structure Account (settings : BatchSettings) (runs : List (Item × ItemRun)) (r : BatchResult) :
    Prop where
  /-- The findings are the first ones of each key among what the items put forward. -/
  findings : ∃ d, Divides [] (runs.flatMap fun x =>
      putForward settings.minScore x.1 x.2.units) d ∧ r.findings = d.kept
  /-- The lost items are recorded first, and then the failures of the others' units. -/
  failures : r.failures =
    (runs.filter fun x => isLost settings.minScore x.1 x.2.units).map (fun x => lossOf x.1)
      ++ (runs.filter fun x => !isLost settings.minScore x.1 x.2.units).flatMap
          fun x => unitFailures x.1.location x.2.units
  /-- The items count that are neither lost nor left incomplete. -/
  itemsScanned : r.itemsScanned = runs.countP fun x =>
    !isLost settings.minScore x.1 x.2.units && x.2.complete
  /-- The batch is marked as stopped if an item is left incomplete that is not lost. -/
  cancelled : r.cancelled = true ↔ ∃ x ∈ runs,
    isLost settings.minScore x.1 x.2.units = false ∧ x.2.complete = false

/-- If an item is left incomplete, the batch was told to stop. -/
theorem raised_of_incomplete {options : Options} {rules : List CompiledRule} {signal : Signal}
    {items : List Item} {x : Item × ItemRun} (hx : x ∈ (runItems options rules signal items).1)
    (hleft : x.2.complete = false) : (runItems options rules signal items).2 = .raised := by
  by_contra hquiet
  have hmem := List.mem_map_of_mem (f := fun r : Item × ItemRun => (r.1, r.2.units, r.2.complete)) hx
  rw [runItems_of_quiet hquiet] at hmem
  obtain ⟨item, -, heq⟩ := List.mem_map.mp hmem
  have hall : true = x.2.complete := congrArg (fun t => t.2.2) heq
  rw [hleft] at hall
  cases hall

/-- The result of runs from the outcomes of their items and the join of these. -/
theorem reportRuns_of_outcomes {settings : BatchSettings} {runs : List (Item × ItemRun)}
    {signal : Signal} {outcomes : List ItemOutcome} {s : Scored}
    (hmap : runs.filterMap (fun x => (x.2.outcome x.1 settings.minScore).toOption) = outcomes)
    (hs : Merges [] outcomes s) :
    (reportRuns settings runs signal).1 = .ok
      { findings := s.findings
        suppressed := s.suppressed
        failures := (runs.filter fun x =>
            isLost settings.minScore x.1 x.2.units).map (fun x => lossOf x.1)
          ++ outcomes.flatMap ItemOutcome.failures
        itemsScanned := (outcomes.filter ItemOutcome.complete).length
        cancelled := signal = .raised && outcomes.any fun o => !o.complete
        duration := 0 } := by
  have hlost := filterMap_lossOf settings.minScore runs
  unfold reportRuns
  simp only [List.filterMap_map, Function.comp_def, hmap, mergeOutcomes_of_merges hs]
  rw [← hlost]
  rfl

/-- **Whatever runs a batch consists of, it has a result, and that tells what happened**, as long as
no item is left incomplete unless the batch was told to stop. -/
theorem exists_account_of_runs (settings : BatchSettings) (runs : List (Item × ItemRun))
    (signal : Signal) (htold : ∀ x ∈ runs, x.2.complete = false → signal = .raised) :
    ∃ r, (reportRuns settings runs signal).1 = .ok r ∧ Account settings runs r := by
  obtain ⟨outcomes, hmap, hyields⟩ := exists_outcomes settings.minScore runs
  obtain ⟨s, d, hs, hd, hfindings⟩ := Yields.merges hyields []
  have hcomplete := Yields.complete_eq hyields
  rw [flatMap_putForward] at hd
  refine ⟨_, reportRuns_of_outcomes hmap hs, ⟨⟨d, hd, hfindings⟩, ?_, ?_, ?_⟩⟩
  · rw [Yields.failures_eq hyields]
  · -- counting complete outcomes is counting complete runs
    have hcount := congrArg (List.countP id) hcomplete
    rw [List.countP_map, List.countP_map, List.countP_filter] at hcount
    rw [← List.countP_eq_length_filter]
    refine congrArg Nat.cast (hcount.trans (List.countP_congr fun x _ => ?_))
    simp [and_comm]
  · have hany := congrArg (List.any · (!·)) hcomplete
    rw [List.any_map, List.any_map, List.any_filter] at hany
    change (_ && outcomes.any (fun o => !o.complete)) = true ↔ _
    rw [show outcomes.any (fun o => !o.complete) = _ from hany, Bool.and_eq_true, List.any_eq_true]
    constructor
    · rintro ⟨-, x, hx, hleft⟩
      exact ⟨x, hx, by simpa using hleft⟩
    · rintro ⟨x, hx, hkept, hleft⟩
      refine ⟨decide_eq_true (htold x hx hleft), x, hx, ?_⟩
      simp [hkept, hleft]

/-- The runs of one worker have such a result. -/
theorem exists_account (settings : BatchSettings) (rules : List CompiledRule)
    (items : List Item) :
    ∃ r, (scanBatch settings rules items).1 = .ok r
      ∧ Account settings (batchRuns settings rules items) r :=
  exists_account_of_runs settings (batchRuns settings rules items) _
    fun _ hx hleft => raised_of_incomplete hx hleft

/-- A batch that is not told to stop is not marked as stopped. -/
theorem Account.cancelled_of_quiet {settings : BatchSettings} {rules : List CompiledRule}
    {items : List Item} {r : BatchResult}
    (h : Account settings (batchRuns settings rules items) r)
    (hquiet : Undisturbed settings rules items) : r.cancelled = false := by
  rw [Bool.eq_false_iff]
  intro hcancelled
  obtain ⟨x, hx, -, hleft⟩ := h.cancelled.mp hcancelled
  exact hquiet (raised_of_incomplete hx hleft)

/-! ## The runs of a batch -/

/-- Every item has a run. -/
theorem map_fst_batchRuns (settings : BatchSettings) (rules : List CompiledRule)
    (items : List Item) : (batchRuns settings rules items).map Prod.fst = items := by
  unfold batchRuns
  generalize settings.signal = signal
  induction items generalizing signal with
  | nil => rfl
  | cons item items ih => exact congrArg (item :: ·) (ih _)

/-- Each of them begins to apply the rules to its item. -/
theorem begins_of_mem_runItems {options : Options} {rules : List CompiledRule} {signal : Signal}
    {items : List Item} {x : Item × ItemRun} (h : x ∈ (runItems options rules signal items).1) :
    x.2.Begins options rules x.1 := by
  induction items generalizing signal with
  | nil => cases h
  | cons item items ih =>
      rcases List.mem_cons.mp h with rfl | h
      · exact ⟨runItem_units_isPrefix_allUnits .., runItem_complete_iff⟩
      · exact ih h

variable {settings : BatchSettings} {rules : List CompiledRule} {items : List Item}

theorem mem_of_mem_batchRuns {x : Item × ItemRun} (h : x ∈ batchRuns settings rules items) :
    x.1 ∈ items := by
  rw [← map_fst_batchRuns settings rules items]
  exact List.mem_map_of_mem h

/-! ## What a result tells about an item -/

/-- In a batch that is not marked as stopped, all units are run of an item that is not lost. -/
theorem Account.units_of_not_cancelled {r : BatchResult}
    (h : Account settings (batchRuns settings rules items) r)
    (hquiet : r.cancelled = false) {x : Item × ItemRun} (hx : x ∈ batchRuns settings rules items)
    (hkept : isLost settings.minScore x.1 x.2.units = false) :
    x.2.units = allUnits settings.options x.1.content rules := by
  have hall : x.2.complete = true := by
    by_contra hleft
    have hmarked := h.cancelled.mpr ⟨x, hx, hkept, Bool.eq_false_iff.mpr hleft⟩
    rw [hquiet] at hmarked
    cases hmarked
  have hbegins := begins_of_mem_runItems hx
  refine hbegins.units.eq_of_length ?_
  rw [allUnits_length]
  exact hbegins.complete.mp hall

/-- If no time-out is recorded, no unit of an item that is not lost ran out of time. -/
theorem Account.not_timeout {r : BatchResult}
    (h : Account settings (batchRuns settings rules items) r)
    (htime : r.timeouts = []) {x : Item × ItemRun} (hx : x ∈ batchRuns settings rules items)
    (hkept : isLost settings.minScore x.1 x.2.units = false) :
    ∀ u ∈ x.2.units, u.failure ≠ some .timeout := by
  intro u hu hfailure
  have hmem : (⟨u.ruleId, x.1.location, .timeout⟩ : UnitFailure) ∈ r.failures := by
    rw [h.failures]
    refine List.mem_append_right _ (List.mem_flatMap.mpr ⟨x, ?_, ?_⟩)
    · exact List.mem_filter.mpr ⟨hx, by rw [hkept]; rfl⟩
    · exact List.mem_filterMap.mpr ⟨u, hu, by rw [hfailure]; rfl⟩
  have hrecorded : (⟨u.ruleId, x.1.location, .timeout⟩ : UnitFailure) ∈ r.timeouts :=
    List.mem_filter.mpr ⟨hmem, decide_eq_true rfl⟩
  rw [htime] at hrecorded
  cases hrecorded

/-! ## Batches with valid locations -/

/-- With valid locations no item is lost. -/
theorem not_lost_of_valid (settings : BatchSettings) (rules : List CompiledRule)
    (hloc : ∀ item ∈ items, Location.Valid item.location) :
    ∀ x ∈ batchRuns settings rules items, isLost settings.minScore x.1 x.2.units = false := by
  exact fun x hx => isLost_of_valid (hloc x.1 (mem_of_mem_batchRuns hx)) _

theorem Account.failures_of_valid {r : BatchResult}
    (h : Account settings (batchRuns settings rules items) r)
    (hloc : ∀ item ∈ items, Location.Valid item.location) :
    r.failures = (batchRuns settings rules items).flatMap
      fun x => unitFailures x.1.location x.2.units := by
  have hkept := not_lost_of_valid settings rules hloc
  rw [h.failures, List.filter_eq_nil_iff.mpr fun x hx => by simp [hkept x hx],
    List.filter_eq_self.mpr fun x hx => by simp [hkept x hx], List.map_nil, List.nil_append]

theorem Account.itemsScanned_of_valid {r : BatchResult}
    (h : Account settings (batchRuns settings rules items) r)
    (hloc : ∀ item ∈ items, Location.Valid item.location) :
    r.itemsScanned = (batchRuns settings rules items).countP fun x => x.2.complete := by
  rw [h.itemsScanned]
  refine congrArg Nat.cast (List.countP_congr fun x hx => ?_)
  simp [not_lost_of_valid settings rules hloc x hx]

/-- In a run of all units, everything is joined that the items tell. -/
theorem flatMap_batchRuns_of_quiet {β : Type} (g : Item → List UnitResult → List β)
    (hquiet : Undisturbed settings rules items) :
    ((batchRuns settings rules items).flatMap fun x => g x.1 x.2.units)
      = items.flatMap fun item => g item (allUnits settings.options item.content rules) := by
  have hruns := congrArg (List.flatMap fun t => g t.1 t.2.1) (runItems_of_quiet hquiet)
  rw [List.flatMap_map, List.flatMap_map] at hruns
  exact hruns

/-- A batch that runs to its end reports the first findings of each key among what its items put
forward. -/
theorem exists_findings_of_quiet (hquiet : Undisturbed settings rules items) :
    ∃ r d, (scanBatch settings rules items).1 = .ok r
      ∧ Divides [] (items.flatMap (forwardOf settings rules)) d ∧ r.findings = d.kept := by
  obtain ⟨r, hr, account⟩ := exists_account settings rules items
  obtain ⟨d, hd, hfindings⟩ := account.findings
  rw [flatMap_batchRuns_of_quiet _ hquiet] at hd
  exact ⟨r, d, hr, hd, hfindings⟩

end SecretScan
