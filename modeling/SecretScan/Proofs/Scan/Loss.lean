import SecretScan.Proofs.Scan.Account
import SecretScan.Proofs.Scan.Pool

/-!
# Items that cannot be scored

Something can go wrong at three places of a batch: a search, a measurement, and the scoring of an
item whose location has no normal form. The first two end a unit and the third one loses the item.
The join of the items brings locations into normal form as well, but it does not fail for that: a
finding is only there if its key was formed before (`Yields.merges`). So a batch always has a
result, and since a lost item takes no part in the join, that result is the one of the batch without
the lost items, with a record put in front for each of them.
-/

namespace SecretScan

/-- Whether what the rules find in an item can be scored. -/
def isScored (settings : BatchSettings) (rules : List CompiledRule) (item : Item) : Bool :=
  (score item.content item.location settings.minScore []
    (scan settings.options item.content rules)).isOk

/-- What an item yields when all rules are applied to it, and it alone is worked on. -/
def wholeOutcome (settings : BatchSettings) (rules : List CompiledRule) (item : Item) :
    Except LocationError ItemOutcome :=
  (⟨allUnits settings.options item.content rules, true, .silent⟩ : ItemRun).outcome item
    settings.minScore

variable {settings : BatchSettings} {rules : List CompiledRule} {items : List Item}

/-- A run yields an outcome exactly if its matches can be scored. -/
theorem ItemRun.isOk_outcome (run : ItemRun) (item : Item) (minScore : Int) :
    (run.outcome item minScore).isOk = (score item.content item.location minScore []
      (run.units.flatMap UnitResult.found)).isOk := by
  unfold outcome
  dsimp only
  cases score item.content item.location minScore [] (run.units.flatMap UnitResult.found) <;> rfl

theorem isOk_wholeOutcome (settings : BatchSettings) (rules : List CompiledRule) (item : Item) :
    (wholeOutcome settings rules item).isOk = isScored settings rules item := by
  rw [wholeOutcome, ItemRun.isOk_outcome, isScored, ← allUnits_found]

/-- The items that are lost are those that cannot be scored. -/
theorem isLost_allUnits (settings : BatchSettings) (rules : List CompiledRule) (item : Item) :
    isLost settings.minScore item (allUnits settings.options item.content rules)
      = !isScored settings rules item := by
  rw [← isOk_wholeOutcome]
  cases hl : isLost settings.minScore item (allUnits settings.options item.content rules) with
  | true =>
      obtain ⟨e, he⟩ : ∃ e, wholeOutcome settings rules item = .error e :=
        ItemRun.outcome_of_lost hl
      rw [he]
      rfl
  | false =>
      obtain ⟨o, ho⟩ : ∃ o, wholeOutcome settings rules item = .ok o :=
        (ItemRun.outcome_of_not_lost hl).imp fun _ => And.left
      rw [ho]
      rfl

/-! ## Batches that run to their end -/

/-- The items that can be scored yield outcomes, as if each of them were run by itself. -/
theorem outcomes_of_quiet (hquiet : Undisturbed settings rules items) :
    (batchRuns settings rules items).filterMap
        (fun x => (x.2.outcome x.1 settings.minScore).toOption)
      = items.filterMap fun item => (wholeOutcome settings rules item).toOption := by
  have hruns := congrArg (List.filterMap fun t : Item × List UnitResult × Bool =>
    ((⟨t.2.1, t.2.2, .silent⟩ : ItemRun).outcome t.1 settings.minScore).toOption)
      (runItems_of_quiet hquiet)
  rw [List.filterMap_map, List.filterMap_map] at hruns
  exact hruns

/-- The others are recorded. -/
theorem losses_of_quiet (hquiet : Undisturbed settings rules items) :
    ((batchRuns settings rules items).filter fun x =>
        isLost settings.minScore x.1 x.2.units).map (fun x => lossOf x.1)
      = (items.filter fun item => !isScored settings rules item).map lossOf := by
  have hruns := congrArg (fun ts => (List.filter (fun t : Item × List UnitResult × Bool =>
    isLost settings.minScore t.1 t.2.1) ts).map fun t => lossOf t.1) (runItems_of_quiet hquiet)
  simp only [List.filter_map, List.map_map] at hruns
  refine hruns.trans (congrArg (List.map lossOf) (List.filter_congr fun item _ => ?_))
  exact isLost_allUnits settings rules item

/-- The items that cannot be scored yield nothing to be joined. -/
theorem filterMap_outcome_filter_isScored (items : List Item) :
    (items.filter (isScored settings rules)).filterMap
        (fun item => (wholeOutcome settings rules item).toOption)
      = items.filterMap fun item => (wholeOutcome settings rules item).toOption := by
  rw [List.filterMap_filter]
  refine List.filterMap_congr fun item _ => ?_
  rw [← isOk_wholeOutcome]
  cases wholeOutcome settings rules item <;> rfl

/-- The result of a batch that runs to its end, from the outcomes of its items and their join. -/
theorem scanBatch_of_quiet {outcomes : List ItemOutcome} {s : Scored}
    (hquiet : Undisturbed settings rules items)
    (hmap : items.filterMap (fun item => (wholeOutcome settings rules item).toOption) = outcomes)
    (hs : Merges [] outcomes s) :
    (scanBatch settings rules items).1 = .ok
      { findings := s.findings
        suppressed := s.suppressed
        failures := (items.filter fun item => !isScored settings rules item).map lossOf
          ++ outcomes.flatMap ItemOutcome.failures
        itemsScanned := (outcomes.filter ItemOutcome.complete).length
        cancelled := false
        duration := 0 } := by
  have hsignal : decide ((runItems settings.options rules settings.signal items).2 = .raised)
      = false := decide_eq_false hquiet
  show (reportRuns settings (batchRuns settings rules items) _).1 = _
  rw [reportRuns_of_outcomes ((outcomes_of_quiet hquiet).trans hmap) hs, losses_of_quiet hquiet,
    hsignal, Bool.false_and]

namespace Account

variable {r : BatchResult}

/-- The failures of a batch that runs to its end: the items that cannot be scored come first, and
then the failures of the others' units. -/
theorem failures_of_quiet (h : Account settings (batchRuns settings rules items) r)
    (hquiet : Undisturbed settings rules items) :
    r.failures = (items.filter fun item => !isScored settings rules item).map lossOf
      ++ (items.filter (isScored settings rules)).flatMap fun item =>
        unitFailures item.location (scanUnits settings.options item.content rules) := by
  rw [h.failures, losses_of_quiet hquiet]
  refine congrArg (_ ++ ·) ?_
  have hruns := congrArg (fun ts => (List.filter (fun t : Item × List UnitResult × Bool =>
    !isLost settings.minScore t.1 t.2.1) ts).flatMap fun t => unitFailures t.1.location t.2.1)
      (runItems_of_quiet hquiet)
  simp only [List.filter_map, List.flatMap_map] at hruns
  refine hruns.trans ?_
  simp only [Function.comp_def, isLost_allUnits, Bool.not_not, allUnits_failures]

/-- A batch that runs to its end scans every item that can be scored. -/
theorem itemsScanned_of_quiet (h : Account settings (batchRuns settings rules items) r)
    (hquiet : Undisturbed settings rules items) :
    r.itemsScanned = (items.filter (isScored settings rules)).length := by
  have hruns := congrArg (List.countP fun t : Item × List UnitResult × Bool =>
    !isLost settings.minScore t.1 t.2.1 && t.2.2) (runItems_of_quiet hquiet)
  rw [List.countP_map, List.countP_map] at hruns
  rw [h.itemsScanned, ← List.countP_eq_length_filter]
  refine congrArg Nat.cast (hruns.trans (List.countP_congr fun item _ => ?_))
  simp only [Function.comp_apply, isLost_allUnits, Bool.not_not, Bool.and_true]

end Account

/--
**What goes wrong stays where it is.**

A batch that is not told to stop has a result, whatever its contents and locations are, and whatever
searches and measurements raise. The items that cannot be scored are each recorded once, in front,
as an error of all rules. Apart from these records the result is the one of the batch without these
items: they bring in no findings, no suppressed matches and no failures of units, all other items
are scanned, and the failures left are those of their own units. However many workers are asked for
and whichever goes on next, they come to an end, and always to this result.
-/
theorem scanBatch_isolates (settings : BatchSettings) (rules : List CompiledRule)
    (items : List Item) (workers : Int) (hquiet : Undisturbed settings rules items) :
    let kept := items.filter (isScored settings rules)
    let lost := items.filter fun item => !isScored settings rules item
    (∃ r, (scanBatch settings rules kept).1 = .ok r
      ∧ (scanBatch settings rules items).1 = .ok { r with
          failures := lost.map (fun item => ⟨"*", item.location, .error "ValueError"⟩)
            ++ r.failures }
      ∧ r.failures = kept.flatMap (fun item =>
          unitFailures item.location (scanUnits settings.options item.content rules))
      ∧ r.itemsScanned = kept.length ∧ r.cancelled = false)
    ∧ (WellFounded fun p' p => Pool.Step settings.options rules (max 1 workers).toNat p p')
    ∧ (∃ pool, Pool.Ends settings rules workers items pool)
    ∧ ∀ pool, Pool.Ends settings rules workers items pool →
      (reportRuns settings pool.runs pool.signal).1 = (scanBatch settings rules items).1 := by
  intro kept lost
  refine ⟨?_, Pool.wellFounded_step _ _ _, Pool.exists_ends settings rules workers items,
    fun _ => report_of_ends hquiet⟩
  have hquiet' : Undisturbed settings rules kept := hquiet.of_sublist_items List.filter_sublist
  have hscored : ∀ item ∈ kept, isScored settings rules item = true :=
    fun item hitem => (List.mem_filter.mp hitem).2
  have hall : kept.filter (isScored settings rules) = kept := List.filter_eq_self.mpr hscored
  have hnone : kept.filter (fun item => !isScored settings rules item) = [] := by
    refine List.filter_eq_nil_iff.mpr fun item hitem => ?_
    rw [hscored item hitem]
    decide
  -- the lost items take no part in the join, so both batches join the same outcomes
  obtain ⟨outcomes, hmap, hyields⟩ :=
    exists_outcomes settings.minScore (batchRuns settings rules items)
  obtain ⟨s, -, hs, -, -⟩ := Yields.merges hyields []
  rw [outcomes_of_quiet hquiet] at hmap
  have hmap' := (filterMap_outcome_filter_isScored items).trans hmap
  have hkept := scanBatch_of_quiet hquiet' hmap' hs
  rw [hnone, List.map_nil, List.nil_append] at hkept
  obtain ⟨r, hr, account⟩ := exists_account settings rules kept
  obtain rfl : _ = r := Except.ok.inj (hkept.symm.trans hr)
  refine ⟨_, hr, scanBatch_of_quiet hquiet hmap hs, ?_, ?_, rfl⟩
  · rw [account.failures_of_quiet hquiet', hnone, List.map_nil, List.nil_append, hall]
  · rw [account.itemsScanned_of_quiet hquiet', hall]

/-- The search that always fails and quotes what it was given. -/
def Matcher.quoting (kind : String) : Matcher where
  search content _ := .fault (.error kind content)
  bounds _ h := by cases h

/-- A rule for keys, and one that cannot be searched for. -/
def frailRules : List CompiledRule :=
  let rules := (compileAll [.ofPattern "key" "Key" "k[0-9]+".toList]).1.rules.entries
  rules ++ rules.map fun r =>
    { r with
      rule := .ofPattern "broken" "Broken" "k[0-9]+".toList
      matcher := .quoting "OSError" }

/-- Settings under which long keys cannot be measured. -/
def frailSettings : BatchSettings where
  options :=
    { Options.default with
      measure := some fun t =>
        if 2 < t.length then .error (.error "RuntimeError" t) else .ok 3.0 }
  minScore := 0
  signal := .silent

/-- The item with the open bracket is lost; what else goes wrong is recorded where it happens. -/
theorem scanBatch_isolates_bracket :
    let items : List Item := [⟨"k1 k2".toList, "a.py".toList⟩, ⟨"k1".toList, "http://[x".toList⟩,
      ⟨"k3 k4567".toList, "b.py".toList⟩]
    Undisturbed frailSettings frailRules items
      ∧ (∃ r, (scanBatch frailSettings frailRules items).1 = .ok r
        ∧ r.failures = [⟨"*", "http://[x".toList, .error "ValueError"⟩,
          ⟨"broken", "a.py".toList, .error "OSError"⟩,
          ⟨"key", "b.py".toList, .error "RuntimeError"⟩,
          ⟨"broken", "b.py".toList, .error "OSError"⟩]
        ∧ r.itemsScanned = 2)
      ∧ ∃ pool, Pool.Ends frailSettings frailRules (-1) items pool
        ∧ (reportRuns frailSettings pool.runs pool.signal).1
          = (scanBatch frailSettings frailRules items).1 := by
  intro items
  have hquiet : Undisturbed frailSettings frailRules items := by decide +kernel
  have hscored : items.filter (isScored frailSettings frailRules) = [items[0], items[2]] := by
    decide +kernel
  have hlost : items.filter (fun item => !isScored frailSettings frailRules item) = [items[1]] := by
    decide +kernel
  obtain ⟨⟨r, -, hr, hfailures, hscanned, -⟩, -, ⟨pool, hpool⟩, hsame⟩ :=
    scanBatch_isolates frailSettings frailRules items (-1) hquiet
  rw [hscored] at hfailures hscanned
  rw [hlost] at hr
  refine ⟨hquiet, ⟨_, hr, ?_, hscanned⟩, pool, hpool, hsame pool hpool⟩
  dsimp only
  rw [hfailures]
  decide +kernel

end SecretScan
