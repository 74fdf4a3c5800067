import SecretScan.Proofs.Scan.Loss

/-!
# What a scan keeps to itself

What is raised while content is scanned may quote the content. Logs and records of failures do not:
they are made from the faults alone (`mapFaults`), with the names of the rules that fail, and from
the locations of items that cannot be scored. This is first said of one batch, whose events and
failures are given in full (`events_of_quiet`, `failures_of_quiet`). So there is nothing to be seen
in them of two contents on which all ends alike, whatever was raised on either of them
(`scanBatch_discreet`).
-/

namespace SecretScan

/-! ## Faults -/

/-- What made a pass fail. -/
def Ending.raised? : Ending → Option Raised
  | .failed e => some e
  | _ => none

/-- What is raised while a rule is applied to content. -/
def CompiledRule.raised? (r : CompiledRule) (options : Options) (content : Text) : Option Raised :=
  if content.isEmpty then none
  else if options.timeout ≤ 0 then some ⟨.timeout, "rule scan deadline exceeded".toList⟩
  else (r.passFrom options content 0).ending.raised?

/-- The event of a fault of a rule. -/
def Fault.event (ruleId : String) (timeout : Float) : Fault → Event
  | .timeout => .ruleTimedOut ruleId timeout
  | .error kind => .ruleFailed ruleId kind

/-- What `tell` makes of the faults of rules on content, rule by rule. -/
def mapFaults {β : Type} (tell : CompiledRule → Fault → β) (options : Options)
    (rules : List CompiledRule) (content : Text) : List β :=
  rules.filterMap fun r => (r.raised? options content).map fun e => tell r e.fault

/-- The rules end alike on two contents: each of them fails on both or on neither, and where it
fails the faults are the same. What is raised may say different things. -/
def EndAlike (options : Options) (rules : List CompiledRule) (content content' : Text) : Prop :=
  ∀ r ∈ rules, (r.raised? options content).map Raised.fault
    = (r.raised? options content').map Raised.fault

instance (options : Options) (rules : List CompiledRule) (content content' : Text) :
    Decidable (EndAlike options rules content content') :=
  inferInstanceAs (Decidable (∀ _ ∈ rules, _ = _))

/-- Of rules that end alike the same is told. -/
theorem EndAlike.mapFaults_eq {options : Options} {rules : List CompiledRule}
    {content content' : Text} {β : Type} (h : EndAlike options rules content content')
    (tell : CompiledRule → Fault → β) :
    mapFaults tell options rules content = mapFaults tell options rules content' := by
  refine List.filterMap_congr fun r hr => ?_
  -- `tell` is given the fault only, never the text
  have hfault := congrArg (Option.map (tell r)) (h r hr)
  rw [Option.map_map, Option.map_map] at hfault
  exact hfault

/-! ## Units -/

section Units

variable (options : Options) (content : Text)

/-- A unit records the fault of what was raised. -/
theorem unitOf_failure (r : CompiledRule) :
    (unitOf options content r).failure = (r.raised? options content).map Raised.fault := by
  unfold unitOf CompiledRule.apply CompiledRule.raised?
  split
  · rfl
  · split
    · rfl
    · unfold Pass.result
      cases (r.passFrom options content 0).ending <;> rfl

theorem unitOf_events (r : CompiledRule) (timeout : Float) :
    (unitOf options content r).events timeout
      = ((r.raised? options content).map fun e => e.fault.event r.id timeout).toList := by
  unfold UnitResult.events
  rw [unitOf_failure, unitOf_ruleId]
  cases r.raised? options content with
  | none => rfl
  | some e =>
      obtain ⟨fault, text⟩ := e
      cases fault <;> rfl

/-- The units of rules tell the faults of the rules. -/
theorem allUnits_events (rules : List CompiledRule) (timeout : Float) :
    (allUnits options content rules).flatMap (fun u => u.events timeout)
      = mapFaults (fun r => Fault.event r.id timeout) options rules content := by
  induction rules with
  | nil => rfl
  | cons r rules ih =>
      rw [allUnits_cons, List.flatMap_cons, ih, unitOf_events, mapFaults, mapFaults,
        List.filterMap_cons]
      cases r.raised? options content <;> rfl

/-- They record the same faults. -/
theorem unitFailures_allUnits (rules : List CompiledRule) (location : Text) :
    unitFailures location (allUnits options content rules)
      = mapFaults (fun r fault => ⟨r.id, location, fault⟩) options rules content := by
  unfold unitFailures allUnits mapFaults
  rw [List.filterMap_map]
  refine List.filterMap_congr fun r _ => ?_
  simp only [Function.comp_apply, unitOf_failure, unitOf_ruleId, Option.map_map, Function.comp_def]

/-- Nothing is told of content without any character, so it does not matter that it is left out. -/
theorem scanUnits_events (rules : List CompiledRule) (timeout : Float) :
    (scanUnits options content rules).flatMap (fun u => u.events timeout)
      = mapFaults (fun r => Fault.event r.id timeout) options rules content := by
  rw [← allUnits_events]
  unfold allUnits scanUnits unitOf
  by_cases he : content.isEmpty
  · simp [he, UnitResult.idle, UnitResult.events]
  · simp [he]

/-- Content with some character has a unit for each rule. -/
theorem scanUnits_failures (rules : List CompiledRule) :
    (scanUnits options content rules).map (fun u => (u.ruleId, u.failure))
      = if content.isEmpty then []
        else rules.map fun r => (r.id, (r.raised? options content).map Raised.fault) := by
  unfold scanUnits
  by_cases he : content.isEmpty = true
  · rw [if_pos he, if_pos he]
    rfl
  · rw [if_neg he, if_neg he, List.map_map]
    refine List.map_congr_left fun r _ => ?_
    have hunit : r.apply options content = unitOf options content r := by rw [unitOf, if_neg he]
    simp only [Function.comp_apply, hunit, unitOf_ruleId, unitOf_failure]

end Units

/-! ## Batches -/

variable {settings : BatchSettings} {rules : List CompiledRule} {items items' : List Item}

/-- The event of an item that is lost. -/
def lossEvents (item : Item) (lost : Bool) : List Event :=
  if lost then [.itemFailed item.location invalidLocation.detail] else []

theorem ItemRun.events_eq (run : ItemRun) (item : Item) (options : Options) (minScore : Int) :
    run.events item options minScore
      = run.units.flatMap (fun u => u.events options.timeout)
        ++ lossEvents item (isLost minScore item run.units) := by
  unfold events
  cases hl : isLost minScore item run.units with
  | true =>
      obtain ⟨e, he⟩ := outcome_of_lost hl
      rw [he]
      rfl
  | false =>
      obtain ⟨o, ho, -⟩ := outcome_of_not_lost hl
      rw [ho]
      rfl

/-- A batch that is not told to stop tells what its runs tell, and no more. -/
theorem reportRuns_events {runs : List (Item × ItemRun)} {signal : Signal}
    (hquiet : signal ≠ .raised) :
    (reportRuns settings runs signal).2
      = runs.flatMap fun x => x.2.events x.1 settings.options settings.minScore := by
  unfold reportRuns
  -- the event at the end is told only if the signal was raised
  simp only [hquiet, decide_false, Bool.false_and]
  cases mergeOutcomes [] ((runs.map fun x =>
    (x.1, x.2.outcome x.1 settings.minScore)).filterMap fun x => x.2.toOption) with
  | error e => rfl
  | ok merged => exact List.append_nil _

/-- What is told about an item: the faults of the rules on it, and whether it cannot be scored. -/
def itemEvents (settings : BatchSettings) (rules : List CompiledRule) (item : Item) : List Event :=
  mapFaults (fun r => Fault.event r.id settings.options.timeout) settings.options rules item.content
    ++ lossEvents item (!isScored settings rules item)

/-- What is recorded of an item that can be scored: the faults of the rules on it. -/
def itemFailures (settings : BatchSettings) (rules : List CompiledRule) (item : Item) :
    List UnitFailure :=
  mapFaults (fun r fault => ⟨r.id, item.location, fault⟩) settings.options rules item.content

/-- **What a batch that runs to its end tells, item by item.** -/
theorem events_of_quiet (hquiet : Undisturbed settings rules items) :
    (scanBatch settings rules items).2 = items.flatMap (itemEvents settings rules) := by
  have hruns := flatMap_batchRuns_of_quiet (fun item units =>
    units.flatMap (fun u => u.events settings.options.timeout)
      ++ lossEvents item (isLost settings.minScore item units)) hquiet
  simp only [isLost_allUnits, ← ItemRun.events_eq, allUnits_events] at hruns
  exact (reportRuns_events hquiet).trans hruns

/-- **What it records**: first the items that cannot be scored. -/
theorem failures_of_quiet (hquiet : Undisturbed settings rules items) :
    ∃ r, (scanBatch settings rules items).1 = .ok r
      ∧ r.failures = (items.filter fun item => !isScored settings rules item).map lossOf
        ++ (items.filter (isScored settings rules)).flatMap (itemFailures settings rules) := by
  obtain ⟨r, hr, account⟩ := exists_account settings rules items
  refine ⟨r, hr, ?_⟩
  rw [account.failures_of_quiet hquiet]
  simp only [← allUnits_failures, unitFailures_allUnits]
  rfl

/-- Two items of one place on which all ends alike: the units of every rule, and the scoring. -/
structure Item.EndsAlike (settings : BatchSettings) (rules : List CompiledRule) (x y : Item) :
    Prop where
  /-- Both come from one place. -/
  location : x.location = y.location
  /-- The rules end alike on them. -/
  units : EndAlike settings.options rules x.content y.content
  /-- Both can be scored, or neither can. -/
  scored : isScored settings rules x = isScored settings rules y

namespace Item.EndsAlike

theorem failures_eq {x y : Item} (h : x.EndsAlike settings rules y) :
    itemFailures settings rules x = itemFailures settings rules y := by
  rw [itemFailures, itemFailures, h.location, h.units.mapFaults_eq]

theorem events_eq {x y : Item} (h : x.EndsAlike settings rules y) :
    itemEvents settings rules x = itemEvents settings rules y := by
  rw [itemEvents, itemEvents, h.units.mapFaults_eq, h.scored, lossEvents, lossEvents, h.location]

/-- The same items are lost. -/
theorem losses_eq (h : List.Forall₂ (Item.EndsAlike settings rules) items items') :
    (items.filter fun item => !isScored settings rules item).map lossOf
      = (items'.filter fun item => !isScored settings rules item).map lossOf := by
  induction h with
  | nil => rfl
  | @cons x y items items' hxy _ ih =>
      rw [List.filter_cons, List.filter_cons, hxy.scored]
      cases isScored settings rules y with
      | true => exact ih
      | false =>
          have hloss : lossOf x = lossOf y := by rw [lossOf, lossOf, hxy.location]
          exact congrArg₂ List.cons hloss ih

/-- The units of the others fail alike. -/
theorem flatMap_failures_eq (h : List.Forall₂ (Item.EndsAlike settings rules) items items') :
    (items.filter (isScored settings rules)).flatMap (itemFailures settings rules)
      = (items'.filter (isScored settings rules)).flatMap (itemFailures settings rules) := by
  induction h with
  | nil => rfl
  | @cons x y items items' hxy _ ih =>
      rw [List.filter_cons, List.filter_cons, hxy.scored]
      cases isScored settings rules y with
      | true => exact congrArg₂ (· ++ ·) hxy.failures_eq ih
      | false => exact ih

/-- What is told item by item is the same. -/
theorem flatMap_events_eq (h : List.Forall₂ (Item.EndsAlike settings rules) items items') :
    items.flatMap (itemEvents settings rules) = items'.flatMap (itemEvents settings rules) := by
  induction h with
  | nil => rfl
  | cons hxy _ ih => rw [List.flatMap_cons, List.flatMap_cons, ih, hxy.events_eq]

end Item.EndsAlike

/--
**Logs and records of failures do not depend on content.**

A batch that is not told to stop tells of each item the faults of the rules on it and whether it
cannot be scored, and that is what it records. So let two such batches have items from the same
places, and let all end alike on the items of one place, whatever these items contain and whatever
the things say that are raised. Then both batches tell the same events in the same order, and record
the same failures. It is the same with a scan of a single content: it tells the same events, and its
units fail alike. Only content without any character has no units at all.
-/
theorem scanBatch_discreet (settings : BatchSettings) (rules : List CompiledRule) :
    (∀ items, Undisturbed settings rules items →
      (scanBatch settings rules items).2 = items.flatMap (itemEvents settings rules)
        ∧ ∃ r, (scanBatch settings rules items).1 = .ok r
          ∧ r.failures = (items.filter fun item => !isScored settings rules item).map lossOf
            ++ (items.filter (isScored settings rules)).flatMap (itemFailures settings rules))
    ∧ (∀ items items', List.Forall₂ (Item.EndsAlike settings rules) items items' →
      Undisturbed settings rules items → Undisturbed settings rules items' →
        (scanBatch settings rules items).2 = (scanBatch settings rules items').2
        ∧ ∃ r r', (scanBatch settings rules items).1 = .ok r
          ∧ (scanBatch settings rules items').1 = .ok r' ∧ r.failures = r'.failures)
    ∧ ∀ options content content', EndAlike options rules content content' →
        (scanUnits options content rules).flatMap (fun u => u.events options.timeout)
            = (scanUnits options content' rules).flatMap (fun u => u.events options.timeout)
          ∧ (∀ location, unitFailures location (scanUnits options content rules)
            = unitFailures location (scanUnits options content' rules))
          ∧ (content.isEmpty = content'.isEmpty →
            (scanUnits options content rules).map (fun u => (u.ruleId, u.failure))
              = (scanUnits options content' rules).map fun u => (u.ruleId, u.failure)) := by
  refine ⟨fun items hquiet => ⟨events_of_quiet hquiet, failures_of_quiet hquiet⟩,
    fun items items' halike hquiet hquiet' => ⟨?_, ?_⟩,
    fun options content content' halike => ⟨?_, fun location => ?_, fun hempty => ?_⟩⟩
  · rw [events_of_quiet hquiet, events_of_quiet hquiet', Item.EndsAlike.flatMap_events_eq halike]
  · obtain ⟨r, hr, hfailures⟩ := failures_of_quiet hquiet
    obtain ⟨r', hr', hfailures'⟩ := failures_of_quiet hquiet'
    refine ⟨r, r', hr, hr', ?_⟩
    rw [hfailures, hfailures', Item.EndsAlike.losses_eq halike,
      Item.EndsAlike.flatMap_failures_eq halike]
  · rw [scanUnits_events, scanUnits_events, halike.mapFaults_eq]
  · rw [← allUnits_failures, ← allUnits_failures, unitFailures_allUnits, unitFailures_allUnits,
      halike.mapFaults_eq]
  · have hunits := List.map_congr_left fun r hr => congrArg (Prod.mk r.id) (halike r hr)
    rw [scanUnits_failures, scanUnits_failures, hempty, hunits]

/-- What is raised quotes two different contents, but nothing of this can be seen. -/
theorem scanBatch_discreet_quotes :
    let items : List Item :=
      [⟨"k345 k6".toList, "a.py".toList⟩, ⟨"k1 k2".toList, "http://[x".toList⟩]
    let items' : List Item :=
      [⟨"k7 k890 k8".toList, "a.py".toList⟩, ⟨"k9".toList, "http://[x".toList⟩]
    (∃ r ∈ frailRules, r.raised? frailSettings.options items[0].content
        ≠ r.raised? frailSettings.options items'[0].content)
      ∧ (scanBatch frailSettings frailRules items).2.length = 4
      ∧ (scanBatch frailSettings frailRules items).2
        = (scanBatch frailSettings frailRules items').2 := by
  intro items items'
  have halike : List.Forall₂ (Item.EndsAlike frailSettings frailRules) items items' :=
    .cons ⟨rfl, by decide +kernel, by decide +kernel⟩
      (.cons ⟨rfl, by decide +kernel, by decide +kernel⟩ .nil)
  obtain ⟨hevents, -⟩ := (scanBatch_discreet frailSettings frailRules).2.1 items items' halike
    (by decide +kernel) (by decide +kernel)
  exact ⟨by decide +kernel, by decide +kernel, hevents⟩

end SecretScan
