import SecretScan.Proofs.Scan.Account
import SecretScan.Proofs.Scan.Pool

/-!
# What the mark of a stopped batch tells

A batch that was told to stop may have left out units, and then its result is partial. The mark in
the result is taken from the outcomes, so it tells of the items that have one: the batch is marked
if a unit is left out of an item that is not lost. Where all locations are valid no item is lost,
and the mark tells of every unit. But an item with an invalid location may be cut short and lost as
well. If units are left out of no other item, the batch is not marked, although it is partial
(`scanBatch_partial_unmarked`).

In any case every item is accounted for once: it counts as scanned, or it is left incomplete, or its
loss is recorded. All of this is read off the runs of the items (`Account.tellsPartial`), and so it
holds of one worker and of every way in which several ones come to an end (`scanBatch_partial`).
-/

namespace SecretScan

/-- Some rule was not applied to the item, because the batch had been told to stop. -/
def ItemRun.LeavesOut (run : ItemRun) (rules : List CompiledRule) : Prop :=
  run.units.length < rules.length

instance (run : ItemRun) (rules : List CompiledRule) : Decidable (run.LeavesOut rules) :=
  inferInstanceAs (Decidable (_ < _))

variable {settings : BatchSettings} {options : Options} {rules : List CompiledRule}
  {items : List Item} {runs : List (Item × ItemRun)} {r : BatchResult}

/-- An item is incomplete exactly if a unit of it is left out. -/
theorem ItemRun.Begins.leavesOut_iff {item : Item} {run : ItemRun}
    (h : run.Begins options rules item) : run.LeavesOut rules ↔ run.complete = false := by
  have hle : run.units.length ≤ rules.length := by
    rw [← allUnits_length options item.content rules]
    exact h.units.length_le
  rw [LeavesOut, ← Bool.not_eq_true, h.complete]
  omega

/-- The failures of the units of an item are failures of rules. -/
theorem ItemRun.Begins.ruleId_of_mem_unitFailures {item : Item} {run : ItemRun}
    (h : run.Begins options rules item) :
    ∀ f ∈ unitFailures item.location run.units, f.ruleId ∈ rules.map CompiledRule.id := by
  intro f hf
  obtain ⟨u, hu, hf⟩ := List.mem_filterMap.mp hf
  obtain ⟨fault, -, rfl⟩ := Option.map_eq_some_iff.mp hf
  obtain ⟨r, hr, rfl⟩ := List.mem_map.mp (h.units.subset hu)
  rw [unitOf_ruleId]
  exact List.mem_map_of_mem hr

/-- If every element has exactly one of three kinds, there are as many of the three together as
there are elements. -/
theorem length_eq_countP_kinds {α : Type} (p q : α → Bool) (xs : List α) :
    xs.length = xs.countP (fun x => !p x && q x) + xs.countP (fun x => !p x && !q x)
      + xs.countP p := by
  have hp := List.length_eq_countP_add_countP p (l := xs)
  have hq := List.countP_eq_countP_filter_add xs (fun x => !p x) q
  rw [List.countP_filter, List.countP_filter] at hq
  simp only [Bool.decide_eq_true, decide_not] at hp hq
  omega

/-! ## The mark -/

/-- What a result tells about partial work, given the runs of the items. -/
structure BatchResult.TellsPartial (settings : BatchSettings) (rules : List CompiledRule)
    (items : List Item) (runs : List (Item × ItemRun)) (r : BatchResult) : Prop where
  /-- The batch is marked exactly if a unit is left out of an item that is not lost. -/
  mark : r.cancelled = true ↔ ∃ x ∈ runs,
    x.2.LeavesOut rules ∧ isLost settings.minScore x.1 x.2.units = false
  /-- So with valid locations it is marked exactly if any unit is left out. -/
  valid : (∀ item ∈ items, Location.Valid item.location) →
    (r.cancelled = true ↔ ∃ x ∈ runs, x.2.LeavesOut rules)
  /-- Every item counts as scanned, or is left incomplete, or is lost, and not two of these. -/
  count : (items.length : Int) = r.itemsScanned
    + runs.countP (fun x => x.2.LeavesOut rules ∧ isLost settings.minScore x.1 x.2.units = false)
    + runs.countP fun x => isLost settings.minScore x.1 x.2.units
  /-- The lost items are recorded for all rules together, and then come failures of single rules. -/
  failures : ∃ others,
    r.failures = (runs.filter fun x => isLost settings.minScore x.1 x.2.units).map
        (fun x => lossOf x.1) ++ others
      ∧ ∀ f ∈ others, f.ruleId ∈ rules.map CompiledRule.id

/-- The account of runs tells what they leave out. -/
theorem Account.tellsPartial (h : Account settings runs r) (hitems : runs.map Prod.fst = items)
    (hbegins : ∀ x ∈ runs, x.2.Begins options rules x.1) :
    r.TellsPartial settings rules items runs := by
  have hmark : r.cancelled = true ↔ ∃ x ∈ runs,
      x.2.LeavesOut rules ∧ isLost settings.minScore x.1 x.2.units = false := by
    rw [h.cancelled]
    refine exists_congr fun x => and_congr_right fun hx => ?_
    rw [(hbegins x hx).leavesOut_iff, and_comm]
  refine ⟨hmark, fun hloc => ?_, ?_, _, h.failures, fun f hf => ?_⟩
  · rw [hmark]
    refine exists_congr fun x => and_congr_right fun hx => and_iff_left (isLost_of_valid ?_ _)
    exact hloc x.1 (hitems ▸ List.mem_map_of_mem hx)
  · have hleft : runs.countP (fun x => x.2.LeavesOut rules
          ∧ isLost settings.minScore x.1 x.2.units = false)
        = runs.countP fun x => !isLost settings.minScore x.1 x.2.units && !x.2.complete :=
      List.countP_congr fun x hx => by simp [(hbegins x hx).leavesOut_iff, and_comm]
    rw [h.itemsScanned, hleft, ← hitems, List.length_map,
      length_eq_countP_kinds (fun x => isLost settings.minScore x.1 x.2.units)
        (fun x => x.2.complete) runs]
    rfl
  · obtain ⟨x, hx, hf⟩ := List.mem_flatMap.mp hf
    exact (hbegins x (List.mem_of_mem_filter hx)).ruleId_of_mem_unitFailures f hf

/--
**What a result tells about partial work.**

However many workers there are, they come to an end, and whichever goes on next, there is a run of
every item and a result. It is marked as stopped exactly if a unit is left out of an item that is
not lost. Every item counts as scanned, or is left incomplete, or is lost, and not two of these. The
failures are those of the lost items, each recorded for all rules together, and then failures of
single rules. The same holds of the items one after the other.
-/
theorem scanBatch_partial (settings : BatchSettings) (rules : List CompiledRule)
    (items : List Item) (workers : Int) :
    ((batchRuns settings rules items).map Prod.fst = items
      ∧ ∃ r, (scanBatch settings rules items).1 = .ok r
        ∧ r.TellsPartial settings rules items (batchRuns settings rules items))
    ∧ (∃ pool, Pool.Ends settings rules workers items pool)
    ∧ ∀ pool, Pool.Ends settings rules workers items pool →
      pool.runs.map Prod.fst = items
        ∧ ∃ r, (reportRuns settings pool.runs pool.signal).1 = .ok r
          ∧ r.TellsPartial settings rules items pool.runs := by
  have hfirst := map_fst_batchRuns settings rules items
  refine ⟨⟨hfirst, ?_⟩, Pool.exists_ends settings rules workers items,
    fun pool hends => ⟨Pool.map_fst_runs hends, ?_⟩⟩
  · obtain ⟨r, hr, account⟩ := exists_account settings rules items
    exact ⟨r, hr, account.tellsPartial hfirst fun _ => begins_of_mem_runItems⟩
  · obtain ⟨r, hr, account⟩ := exists_account_of_runs settings pool.runs pool.signal
      fun _ hx => (Pool.begins_of_mem_runs hends hx).2
    exact ⟨r, hr, account.tellsPartial (Pool.map_fst_runs hends)
      fun _ hx => (Pool.begins_of_mem_runs hends hx).1⟩

/-- A rule whose search asks the scan to stop. -/
def stoppingRule : CompiledRule :=
  ⟨.ofPattern "trip" "trip" [], ⟨[], ['g'], false⟩, .cancelling⟩

/-- **A partial batch need not be marked.** The second of three rules asks to stop, so the third one
is left out. What the first one found cannot be reported, for the location is invalid, and with the
item its mark is lost. -/
theorem scanBatch_partial_unmarked :
    let compiled := (compileAll [.ofPattern "key" "key" "k[0-9]+".toList,
      .ofPattern "late" "late" "z+".toList]).1.rules.entries
    let rules := compiled.take 1 ++ stoppingRule :: compiled.drop 1
    let settings : BatchSettings :=
      { BatchSettings.default with options := { Options.default with measure := none } }
    let items : List Item := [⟨"k12".toList, "http://[x".toList⟩]
    ∃ r, (scanBatch settings rules items).1 = .ok r
      ∧ (∃ x ∈ batchRuns settings rules items, x.2.LeavesOut rules)
      ∧ r.cancelled = false := by
  intro compiled rules settings items
  obtain ⟨r, hr, account⟩ := exists_account settings rules items
  refine ⟨r, hr, by decide +kernel, ?_⟩
  have hmark := (account.tellsPartial (map_fst_batchRuns settings rules items)
    fun _ => begins_of_mem_runItems).mark
  rw [Bool.eq_false_iff, Ne, hmark]
  decide +kernel

end SecretScan
