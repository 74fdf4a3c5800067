import Mathlib.Logic.Relation
import SecretScan.Proofs.Scan.Run

/-!
# Several workers

A batch may be worked on by several workers at a time. A free worker takes up the item that waits
longest and runs the rules over it one after the other. Running a unit takes time: others go on
meanwhile, and the batch may be told to stop, which is noticed before the next unit. Which worker
goes on next is left open, so the steps below are a relation. There is always something that can be
done until all is done (`exists_step`), and it gets less with each step (`Step.left_lt`), so the end
is reached.

At every step what is left to be run of an item completes what has been run of it, unless the batch
was told to stop and rules were left out (`Orderly.step`). So in the end each item has the first
ones of its units (`begins_of_mem_runs`). The workers meet in nothing but the signal. In a batch
that is never told to stop they do not meet at all, and each item has all its units
(`runs_of_ends`). That is what one worker arrives at, whose result is `scanBatch`
(`report_of_ends`).
-/

namespace SecretScan

/-- An item that has been taken up. -/
structure Job where
  /-- The item. -/
  item : Item
  /-- The units that were run. -/
  units : List UnitResult
  /-- The rules that have still to be run. -/
  rest : List CompiledRule
  /-- Whether the first of these is being run. -/
  underway : Bool
  /-- Whether no rule was left out. -/
  complete : Bool

/-- A batch under way. -/
structure Pool where
  /-- The items that have been taken up, in their order. -/
  jobs : List Job
  /-- The items that wait. -/
  queue : List Item
  /-- The signal that all workers look at. -/
  signal : Signal

namespace Pool

/-- The batch before any item is taken up. -/
def start (settings : BatchSettings) (items : List Item) : Pool :=
  ⟨[], items, settings.signal⟩

/-- How many workers are busy. -/
def busy (jobs : List Job) : Nat :=
  jobs.countP fun job => !job.rest.isEmpty

/-- What one worker does next. -/
inductive Step (options : Options) (rules : List CompiledRule) (workers : Nat) :
    Pool → Pool → Prop where
  /-- A free worker takes up the first item that waits. -/
  | take {jobs : List Job} {item : Item} {queue : List Item} {signal : Signal} :
      busy jobs < workers →
      Step options rules workers ⟨jobs, item :: queue, signal⟩
        ⟨jobs ++ [⟨item, [], rules, false, true⟩], queue, signal⟩
  /-- A busy worker sees that the batch is to go on, and begins to run its next unit. -/
  | enter {before after : List Job} {item : Item} {units : List UnitResult} {r : CompiledRule}
      {rest : List CompiledRule} {complete : Bool} {queue : List Item} {signal : Signal} :
      signal ≠ .raised →
      Step options rules workers
        ⟨before ++ ⟨item, units, r :: rest, false, complete⟩ :: after, queue, signal⟩
        ⟨before ++ ⟨item, units, r :: rest, true, complete⟩ :: after, queue, signal⟩
  /-- A busy worker comes to the end of its unit. -/
  | finish {before after : List Job} {item : Item} {units : List UnitResult} {r : CompiledRule}
      {rest : List CompiledRule} {complete : Bool} {queue : List Item} {signal : Signal} :
      Step options rules workers
        ⟨before ++ ⟨item, units, r :: rest, true, complete⟩ :: after, queue, signal⟩
        ⟨before ++ ⟨item, units ++ [unitOf options item.content r], rest, false, complete⟩ :: after,
          queue, signal.next (unitOf options item.content r).cancels⟩
  /-- A busy worker sees that the batch is to stop, and leaves out what it has still to run. -/
  | leave {before after : List Job} {item : Item} {units : List UnitResult} {r : CompiledRule}
      {rest : List CompiledRule} {complete : Bool} {queue : List Item} :
      Step options rules workers
        ⟨before ++ ⟨item, units, r :: rest, false, complete⟩ :: after, queue, .raised⟩
        ⟨before ++ ⟨item, units, [], false, false⟩ :: after, queue, .raised⟩

/-- No item waits, and no rule has still to be run. -/
def Finished (p : Pool) : Prop :=
  p.queue = [] ∧ ∀ job ∈ p.jobs, job.rest = []

/-- The batch can end like this with a number of workers; it is never worked on by less than one. -/
def Ends (settings : BatchSettings) (rules : List CompiledRule) (workers : Int) (items : List Item)
    (p : Pool) : Prop :=
  Relation.ReflTransGen (Step settings.options rules (max 1 workers).toNat) (start settings items) p
    ∧ p.Finished

/-- The runs of the items that have been taken up. -/
def runs (p : Pool) : List (Item × ItemRun) :=
  p.jobs.map fun job => (job.item, ⟨job.units, job.complete, p.signal⟩)

/-- How many units have still to be run. -/
def unitsLeft (rules : List CompiledRule) (p : Pool) : Nat :=
  (p.jobs.flatMap Job.rest).length + p.queue.length * rules.length

/-- How many jobs are between units, or at their end. -/
def idle (jobs : List Job) : Nat :=
  jobs.countP fun job => !job.underway

/-- How much there is still to do. Each unit is begun and ended, and each item is taken up. -/
def left (rules : List CompiledRule) (p : Pool) : Nat :=
  2 * p.unitsLeft rules + idle p.jobs + 2 * p.queue.length

variable {settings : BatchSettings} {options : Options} {rules : List CompiledRule}
  {items : List Item} {workers : Nat} {p p' : Pool}

/-! ## Going on -/

/-- Every step leaves less to do. -/
theorem Step.left_lt (h : Step options rules workers p p') : p'.left rules < p.left rules := by
  cases h <;> simp only [left, unitsLeft, idle, List.flatMap_append, List.flatMap_cons,
    List.flatMap_nil, List.length_append, List.length_cons, List.length_nil, List.countP_append,
    List.countP_cons, List.countP_nil, Bool.not_true, Bool.not_false, Bool.false_eq_true,
    ↓reduceIte, Nat.succ_mul] <;> omega

/-- Until the batch is finished something can be done. -/
theorem exists_step (hworkers : 0 < workers) (h : ¬ p.Finished) :
    ∃ p', Step options rules workers p p' := by
  obtain ⟨jobs, queue, signal⟩ := p
  by_cases hall : ∀ job ∈ jobs, job.rest = []
  · -- nobody is busy, so whoever takes up an item is free
    cases queue with
    | nil => exact absurd ⟨rfl, hall⟩ h
    | cons item queue =>
        have hfree : busy jobs = 0 := by
          rw [busy, List.countP_eq_zero]
          intro job hjob
          simp [hall job hjob]
        exact ⟨_, .take (hfree ▸ hworkers)⟩
  · obtain ⟨⟨item, units, rest, underway, complete⟩, hjob, hrest⟩ :
        ∃ job ∈ jobs, job.rest ≠ [] := by
      simpa using hall
    obtain ⟨before, after, rfl⟩ := List.append_of_mem hjob
    obtain ⟨r, rest, rfl⟩ := List.exists_cons_of_ne_nil hrest
    cases underway with
    | true => exact ⟨_, .finish⟩
    | false =>
        by_cases hraised : signal = .raised
        · subst hraised
          exact ⟨_, .leave⟩
        · exact ⟨_, .enter hraised⟩

/-- No batch is worked on for ever, whichever worker goes on next. -/
theorem wellFounded_step (options : Options) (rules : List CompiledRule) (workers : Nat) :
    WellFounded fun p' p => Step options rules workers p p' :=
  Subrelation.wf (fun h => h.left_lt) (measure (left rules)).wf

/-- Every batch can be worked on to its end. -/
theorem exists_finished (hworkers : 0 < workers) (p : Pool) :
    ∃ q, Relation.ReflTransGen (Step options rules workers) p q ∧ q.Finished := by
  induction p using (wellFounded_step options rules workers).induction with
  | _ p ih =>
      by_cases h : p.Finished
      · exact ⟨p, .refl, h⟩
      · obtain ⟨p', hstep⟩ : ∃ p', Step options rules workers p p' := exists_step hworkers h
        obtain ⟨q, hsteps, hq⟩ := ih p' hstep
        exact ⟨q, .head hstep hsteps, hq⟩

theorem exists_ends (settings : BatchSettings) (rules : List CompiledRule) (workers : Int)
    (items : List Item) : ∃ p, Ends settings rules workers items p :=
  exists_finished (by omega) _

end Pool

/-! ## In order at every step -/

/-- What has been done of an item: no rule has been left out, and what is left to be run completes
what has been run; or the batch was told to stop, and the first units were all. -/
inductive Job.Orderly (options : Options) (rules : List CompiledRule) (signal : Signal) :
    Job → Prop where
  | whole {job : Job} : job.complete = true →
      job.units ++ allUnits options job.item.content job.rest
        = allUnits options job.item.content rules →
      Orderly options rules signal job
  | cut {job : Job} : signal = .raised → job.complete = false → job.rest = [] →
      job.units <+: allUnits options job.item.content rules → job.units.length < rules.length →
      Orderly options rules signal job

namespace Job.Orderly

variable {options : Options} {rules : List CompiledRule} {signal : Signal} {job : Job}

/-- As long as the batch has not been told to stop, all rules will have been run in the end. -/
theorem whole_of_ne_raised (h : job.Orderly options rules signal) (hsignal : signal ≠ .raised) :
    job.complete = true ∧ job.units ++ allUnits options job.item.content job.rest
      = allUnits options job.item.content rules := by
  cases h with
  | whole hcomplete hunits => exact ⟨hcomplete, hunits⟩
  | cut hraised => exact absurd hraised hsignal

/-- The same goes for an item of which there is something left to be run. -/
theorem whole_of_rest (h : job.Orderly options rules signal) (hrest : job.rest ≠ []) :
    job.complete = true ∧ job.units ++ allUnits options job.item.content job.rest
      = allUnits options job.item.content rules := by
  cases h with
  | whole hcomplete hunits => exact ⟨hcomplete, hunits⟩
  | cut _ _ hnil => exact absurd hnil hrest

/-- Rules are only left out if the batch was told to stop. -/
theorem raised (h : job.Orderly options rules signal) (hleft : job.complete = false) :
    signal = .raised := by
  cases h with
  | whole hcomplete _ =>
      rw [hleft] at hcomplete
      cases hcomplete
  | cut hraised => exact hraised

/-- Whatever is done elsewhere, a batch that was told to stop stays so. -/
theorem next (h : job.Orderly options rules signal) (cancels : Bool) :
    job.Orderly options rules (signal.next cancels) := by
  cases h with
  | whole hcomplete hunits => exact .whole hcomplete hunits
  | cut hraised hleft hrest hunits hlength =>
      subst hraised
      exact .cut rfl hleft hrest hunits hlength

/-- A job of which a unit ends is in order, also if the batch was told to stop meanwhile. -/
theorem finish {item : Item} {units : List UnitResult} {r : CompiledRule}
    {rest : List CompiledRule} {complete : Bool}
    (h : Orderly options rules signal ⟨item, units, r :: rest, true, complete⟩)
    (signal' : Signal) : Orderly options rules signal'
      ⟨item, units ++ [unitOf options item.content r], rest, false, complete⟩ := by
  obtain ⟨hcomplete, hunits⟩ := h.whole_of_rest (List.cons_ne_nil r rest)
  refine .whole hcomplete ?_
  rw [← hunits, allUnits_cons, List.append_assoc]
  rfl

/-- A job that is left has run the first ones of its units. -/
theorem leave {item : Item} {units : List UnitResult} {r : CompiledRule}
    {rest : List CompiledRule} {complete : Bool}
    (h : Orderly options rules .raised ⟨item, units, r :: rest, false, complete⟩) :
    Orderly options rules .raised ⟨item, units, [], false, false⟩ := by
  obtain ⟨-, hunits⟩ := h.whole_of_rest (List.cons_ne_nil r rest)
  refine .cut rfl rfl rfl ⟨_, hunits⟩ ?_
  rw [← allUnits_length options item.content rules, ← hunits, allUnits_cons]
  simp

/-- Nothing is left to be run: what was run begins to apply the rules. -/
theorem begins (h : job.Orderly options rules signal) (hrest : job.rest = []) (s : Signal) :
    (⟨job.units, job.complete, s⟩ : ItemRun).Begins options rules job.item := by
  cases h with
  | whole hcomplete hunits =>
      rw [hrest, allUnits, List.map_nil, List.append_nil] at hunits
      refine ⟨hunits ▸ List.prefix_rfl, iff_of_true hcomplete ?_⟩
      rw [← allUnits_length options job.item.content rules, ← hunits]
  | cut _ hleft _ hunits hlength =>
      exact ⟨hunits, iff_of_false (Bool.eq_false_iff.mp hleft) (Nat.ne_of_lt hlength)⟩

end Job.Orderly

namespace Pool

variable {settings : BatchSettings} {options : Options} {rules : List CompiledRule}
  {items : List Item} {workers : Nat} {p p' : Pool}

/-- What has been done is in order. -/
structure Orderly (options : Options) (rules : List CompiledRule) (items : List Item)
    (p : Pool) : Prop where
  /-- The items are taken up in their order. -/
  items : p.jobs.map Job.item ++ p.queue = items
  /-- Each of them is in order. -/
  jobs : ∀ job ∈ p.jobs, job.Orderly options rules p.signal

theorem Orderly.take {jobs : List Job} {item : Item} {queue : List Item} {signal : Signal}
    (h : Orderly options rules items ⟨jobs, item :: queue, signal⟩) :
    Orderly options rules items ⟨jobs ++ [⟨item, [], rules, false, true⟩], queue, signal⟩ where
  items := by simpa using h.items
  jobs := List.forall_mem_append.mpr ⟨h.jobs, List.forall_mem_singleton.mpr (.whole rfl rfl)⟩

/-- One job goes on, and the others are in order still. -/
theorem Orderly.replace {before after : List Job} {job job' : Job} {queue : List Item}
    {signal signal' : Signal}
    (h : Orderly options rules items ⟨before ++ job :: after, queue, signal⟩)
    (hitem : job'.item = job.item)
    (hothers : ∀ job : Job, job.Orderly options rules signal → job.Orderly options rules signal')
    (hjob : job.Orderly options rules signal → job'.Orderly options rules signal') :
    Orderly options rules items ⟨before ++ job' :: after, queue, signal'⟩ := by
  obtain ⟨hitems, hjobs⟩ := h
  simp only [List.forall_mem_append, List.forall_mem_cons] at hjobs
  obtain ⟨hbefore, hold, hafter⟩ := hjobs
  refine ⟨by simpa [hitem] using hitems, ?_⟩
  simp only [List.forall_mem_append, List.forall_mem_cons]
  exact ⟨fun job hmem => hothers job (hbefore job hmem), hjob hold,
    fun job hmem => hothers job (hafter job hmem)⟩

/-- **Every step keeps the batch in order.** -/
theorem Orderly.step (h : Orderly options rules items p) (hstep : Step options rules workers p p') :
    Orderly options rules items p' := by
  cases hstep with
  | take _ => exact h.take
  | enter hsignal =>
      exact h.replace rfl (fun _ => id) fun hjob => (hjob.whole_of_ne_raised hsignal).elim .whole
  | finish => exact h.replace rfl (fun _ hjob => hjob.next _) fun hjob => hjob.finish _
  | leave => exact h.replace rfl (fun _ => id) Job.Orderly.leave

theorem Orderly.steps
    (h : Relation.ReflTransGen (Step settings.options rules workers) (start settings items) p) :
    Orderly settings.options rules items p := by
  induction h with
  | refl => exact ⟨rfl, List.forall_mem_nil _⟩
  | tail _ hstep ih => exact ih.step hstep

/-- In the end every item has a run. -/
theorem map_fst_runs {workers : Int} (h : Ends settings rules workers items p) :
    p.runs.map Prod.fst = items := by
  obtain ⟨hsteps, hqueue, -⟩ := h
  have hitems := (Orderly.steps hsteps).items
  rw [hqueue, List.append_nil] at hitems
  rw [← hitems, runs, List.map_map]
  rfl

/-- Each of them begins to apply the rules to its item, and leaves none out unless the batch was
told to stop. -/
theorem begins_of_mem_runs {workers : Int} (h : Ends settings rules workers items p)
    {x : Item × ItemRun} (hx : x ∈ p.runs) :
    x.2.Begins settings.options rules x.1 ∧ (x.2.complete = false → p.signal = .raised) := by
  obtain ⟨hsteps, -, hrest⟩ := h
  obtain ⟨job, hjob, rfl⟩ := List.mem_map.mp hx
  have horderly := (Orderly.steps hsteps).jobs job hjob
  exact ⟨horderly.begins (hrest job hjob) _, horderly.raised⟩

/-! ## Coming to the end undisturbed -/

/-- A unit uses up one of those that the outside lets run, if it does not ask the batch to stop. -/
theorem allows_step (hcancels : ∀ item ∈ items,
      ∀ u ∈ allUnits settings.options item.content rules, u.cancels = false)
    (h : Orderly settings.options rules items p) (hallows : p.signal.Allows (p.unitsLeft rules))
    (hstep : Step settings.options rules workers p p') :
    p'.signal.Allows (p'.unitsLeft rules) := by
  cases hstep with
  | take _ =>
      refine hallows.mono (Nat.le_of_eq ?_)
      simp only [unitsLeft, List.flatMap_append, List.flatMap_cons, List.flatMap_nil,
        List.length_append, List.length_cons, List.length_nil, Nat.succ_mul]
      omega
  | enter _ =>
      refine hallows.mono (Nat.le_of_eq ?_)
      simp only [unitsLeft, List.flatMap_append, List.flatMap_cons]
  | @finish before after item units r rest complete queue signal =>
      -- the unit is one of those that the item has in all, and none of them asks the batch to stop
      have hquiet : (unitOf settings.options item.content r).cancels = false := by
        have hmem : (⟨item, units, r :: rest, true, complete⟩ : Job)
            ∈ before ++ ⟨item, units, r :: rest, true, complete⟩ :: after :=
          List.mem_append_right before List.mem_cons_self
        obtain ⟨-, hunits⟩ := (h.jobs _ hmem).whole_of_ne_raised hallows.ne_raised
        refine hcancels item ?_ _ ?_
        · rw [← h.items]
          exact List.mem_append_left queue (List.mem_map_of_mem hmem)
        · rw [← hunits, allUnits_cons]
          exact List.mem_append_right units List.mem_cons_self
      rw [hquiet]
      refine (hallows.mono (Nat.le_of_eq ?_)).next
      simp only [unitsLeft, List.flatMap_append, List.flatMap_cons, List.length_append,
        List.length_cons]
      omega
  | leave => exact absurd rfl hallows.ne_raised

theorem allows_steps (hquiet : Undisturbed settings rules items)
    (h : Relation.ReflTransGen (Step settings.options rules workers) (start settings items) p) :
    p.signal.Allows (p.unitsLeft rules) := by
  obtain ⟨hcancels, hallows⟩ := undisturbed_iff.mp hquiet
  induction h with
  | refl =>
      rw [unitsLeft, start, List.flatMap_nil, List.length_nil, Nat.zero_add]
      exact hallows
  | tail hsteps hstep ih => exact allows_step hcancels (.steps hsteps) ih hstep

/-- When all is done, each item has all its units. -/
theorem runs_of_ends {workers : Int} (hquiet : Undisturbed settings rules items)
    (h : Ends settings rules workers items p) :
    p.runs.map (fun x => (x.1, x.2.units, x.2.complete))
      = items.map fun item => (item, allUnits settings.options item.content rules, true) := by
  obtain ⟨hsteps, hqueue, hrest⟩ := h
  have hsignal := (allows_steps hquiet hsteps).ne_raised
  obtain ⟨hitems, hjobs⟩ := Orderly.steps hsteps
  rw [hqueue, List.append_nil] at hitems
  rw [← hitems, runs, List.map_map, List.map_map]
  refine List.map_congr_left fun job hjob => ?_
  obtain ⟨hcomplete, hall⟩ := (hjobs job hjob).whole_of_ne_raised hsignal
  rw [hrest job hjob, allUnits, List.map_nil, List.append_nil] at hall
  simp only [Function.comp_apply, hall, hcomplete]

end Pool

/-- A result knows of a run which units were run and whether these are all. -/
theorem reportRuns_congr {settings : BatchSettings} {runs runs' : List (Item × ItemRun)}
    {signal signal' : Signal}
    (hruns : runs.map (fun x => (x.1, x.2.units, x.2.complete))
      = runs'.map fun x => (x.1, x.2.units, x.2.complete))
    (hquiet : signal ≠ .raised) (hquiet' : signal' ≠ .raised) :
    (reportRuns settings runs signal).1 = (reportRuns settings runs' signal').1 := by
  -- the signal after a run is not looked at, so it may be forgotten
  have htried := congrArg (List.map fun t : Item × List UnitResult × Bool =>
    (t.1, (⟨t.2.1, t.2.2, .silent⟩ : ItemRun).outcome t.1 settings.minScore)) hruns
  rw [List.map_map, List.map_map] at htried
  change runs.map (fun x => (x.1, x.2.outcome x.1 settings.minScore))
    = runs'.map (fun x => (x.1, x.2.outcome x.1 settings.minScore)) at htried
  unfold reportRuns
  simp only [htried, hquiet, hquiet', decide_false, Bool.false_and]
  cases mergeOutcomes [] ((runs'.map fun x =>
    (x.1, x.2.outcome x.1 settings.minScore)).filterMap fun x => x.2.toOption) <;> rfl

/-- **However many workers there are and whichever goes on next, the result is the same.** -/
theorem report_of_ends {settings : BatchSettings} {rules : List CompiledRule} {items : List Item}
    {workers : Int} {p : Pool} (hquiet : Undisturbed settings rules items)
    (h : p.Ends settings rules workers items) :
    (reportRuns settings p.runs p.signal).1 = (scanBatch settings rules items).1 :=
  reportRuns_congr ((Pool.runs_of_ends hquiet h).trans (runItems_of_quiet hquiet).symm)
    (Pool.allows_steps hquiet h.1).ne_raised hquiet

end SecretScan
