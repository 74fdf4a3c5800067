import SecretScan.Proofs.Scan.Account
import SecretScan.Proofs.Scan.Pass

/-!
# Batches that are told to stop

A batch can be told to stop before its first unit or while any of its units runs: from outside, or
by the unit itself. The unit that runs then still comes to its end, and no other one is started. So
the units of the batch are the first ones of all units, item by item and rule by rule
(`runItems_units`).

What the units of an item put forward only grows with each unit, and items that are not reached put
nothing forward. Hence whatever is joined in the order of the units is told as far as the batch came
(`runItems_tells`). That holds of what is put forward for the report and of the failures, and since
duplicates are noticed from front to back also of the findings.
-/

namespace SecretScan

namespace Signal

/-- How many units are started, given which of them ask the batch to stop. -/
def started : Signal → List Bool → Nat
  | _, [] => 0
  | s, c :: cs => if s = raised then 0 else (s.next c).started cs + 1

@[simp] theorem started_raised (cs : List Bool) : raised.started cs = 0 := by
  cases cs with
  | nil => rfl
  | cons c cs => exact if_pos rfl

theorem started_cons {s : Signal} (hs : s ≠ raised) (c : Bool) (cs : List Bool) :
    s.started (c :: cs) = (s.next c).started cs + 1 :=
  if_neg hs

theorem started_le (s : Signal) (cs : List Bool) : s.started cs ≤ cs.length := by
  induction cs generalizing s with
  | nil => exact Nat.le_refl 0
  | cons c cs ih =>
      by_cases hs : s = raised
      · rw [hs, started_raised]
        exact Nat.zero_le _
      · rw [started_cons hs]
        exact Nat.succ_le_succ (ih _)

/-- If the batch is not told to stop, all units are started. -/
theorem started_of_quiet {s : Signal} {cs : List Bool} (h : s.after cs ≠ raised) :
    s.started cs = cs.length := by
  induction cs generalizing s with
  | nil => rfl
  | cons c cs ih =>
      have hs : s ≠ raised := by
        rintro rfl
        exact h (after_raised _)
      rw [started_cons hs, ih h, List.length_cons]

theorem started_append (s : Signal) (cs ds : List Bool) :
    s.started (cs ++ ds) = s.started cs + (s.after cs).started ds := by
  induction cs generalizing s with
  | nil => exact (Nat.zero_add _).symm
  | cons c cs ih =>
      by_cases hs : s = raised
      · rw [hs, started_raised, started_raised, after_raised, started_raised]
      · rw [List.cons_append, started_cons hs, started_cons hs, ih, after_cons]
        omega

/-- If the batch is told to stop when `n` units have been started, no other unit is. -/
theorem started_eq {s : Signal} {cs : List Bool} {n : Nat} (hn : n ≤ cs.length)
    (htold : s.after (cs.take n) = raised)
    (hbefore : ∀ m < n, s.after (cs.take m) ≠ raised) : s.started cs = n := by
  induction cs generalizing s n with
  | nil => exact (Nat.le_zero.mp hn).symm
  | cons c cs ih =>
      cases n with
      | zero =>
          have hs : s = raised := htold
          rw [hs, started_raised]
      | succ n =>
          have hs : s ≠ raised := hbefore 0 (Nat.succ_pos n)
          rw [started_cons hs, ih (Nat.le_of_succ_le_succ hn) htold]
          exact fun m hm => hbefore (m + 1) (Nat.succ_lt_succ hm)

end Signal

/-! ## The units that are started -/

theorem runItem_units (options : Options) (content : Text) (signal : Signal)
    (rules : List CompiledRule) :
    (runItem options content signal rules).units = (allUnits options content rules).take
      (signal.started ((allUnits options content rules).map UnitResult.cancels)) := by
  induction rules generalizing signal with
  | nil => rfl
  | cons r rules ih =>
      by_cases hs : signal = .raised
      · rw [runItem, if_pos hs, hs, Signal.started_raised]
        rfl
      · rw [runItem, if_neg hs, allUnits_cons, List.map_cons, Signal.started_cons hs,
          List.take_succ_cons]
        exact congrArg (_ :: ·) (ih _)

variable {options : Options} {rules : List CompiledRule}

/-- **The units of a batch are the first ones of all units.** -/
theorem runItems_units (signal : Signal) (items : List Item) :
    ((runItems options rules signal items).1.flatMap fun x => x.2.units)
      = (items.flatMap fun item => allUnits options item.content rules).take
          (signal.started (items.flatMap (itemCancels options rules))) := by
  induction items generalizing signal with
  | nil => rfl
  | cons item items ih =>
      have hlen : (itemCancels options rules item).length
          = (allUnits options item.content rules).length := List.length_map _
      have hle := signal.started_le (itemCancels options rules item)
      have hsignal : (runItem options item.content signal rules).signal
          = signal.after (itemCancels options rules item) := runItem_signal ..
      have hunits : (runItem options item.content signal rules).units
          = (allUnits options item.content rules).take
              (signal.started (itemCancels options rules item)) := runItem_units ..
      simp only [runItems, List.flatMap_cons, Signal.started_append, List.take_append, ih, hsignal,
        hunits]
      by_cases hquiet : signal.after (itemCancels options rules item) = .raised
      · -- the batch is told to stop inside this item
        rw [hquiet, Signal.started_raised, Nat.add_zero, Nat.sub_eq_zero_of_le (hlen ▸ hle)]
      · rw [Signal.started_of_quiet hquiet, hlen, Nat.add_sub_cancel_left,
          List.take_of_length_le (Nat.le_add_right _ _), List.take_length]

/-- The items count as complete all of whose units are started. -/
theorem countP_complete (signal : Signal) (items : List Item) (hrules : rules ≠ []) :
    (runItems options rules signal items).1.countP (fun x => x.2.complete)
      = signal.started (items.flatMap (itemCancels options rules)) / rules.length := by
  have hpos : 0 < rules.length := List.length_pos_iff.mpr hrules
  induction items generalizing signal with
  | nil => exact (Nat.zero_div _).symm
  | cons item items ih =>
      have hlen := itemCancels_length options rules item
      have hle := signal.started_le (itemCancels options rules item)
      have hcomplete : (runItem options item.content signal rules).complete = true
          ↔ signal.started (itemCancels options rules item) = rules.length := by
        rw [runItem_complete_iff, runItem_units, List.length_take, allUnits_length]
        change min (signal.started (itemCancels options rules item)) _ = _ ↔ _
        omega
      have hsignal : (runItem options item.content signal rules).signal
          = signal.after (itemCancels options rules item) := runItem_signal ..
      simp only [runItems, List.countP_cons, List.flatMap_cons, Signal.started_append, ih, hsignal,
        hcomplete]
      by_cases hquiet : signal.after (itemCancels options rules item) = .raised
      · rw [hquiet, Signal.started_raised, Nat.zero_div, Nat.zero_add, Nat.add_zero]
        split
        · next hall => rw [hall, Nat.div_self hpos]
        · next hleft => rw [Nat.div_eq_of_lt (by omega)]
      · rw [Signal.started_of_quiet hquiet, hlen, if_pos rfl, Nat.add_div_left _ hpos]

/-! ## What is told as far as the batch came -/

/-- Units are joined as far as the batch came, if what an item tells grows with its units. -/
theorem runItems_tells {β : Type} {g : Item → List UnitResult → List β}
    (hnil : ∀ item, g item [] = [])
    (hgrows : ∀ item us vs, us <+: vs → g item us <+: g item vs)
    (signal : Signal) (items : List Item) :
    ((runItems options rules signal items).1.flatMap fun x => g x.1 x.2.units)
      <+: items.flatMap fun item => g item (allUnits options item.content rules) := by
  have hraised : ∀ items : List Item,
      ((runItems options rules .raised items).1.flatMap fun x => g x.1 x.2.units) = [] := by
    intro items
    induction items with
    | nil => rfl
    | cons item items ih =>
        simp only [runItems, List.flatMap_cons, runItem_units, runItem_signal,
          Signal.started_raised, Signal.after_raised, List.take_zero, hnil, ih, List.append_nil]
  induction items generalizing signal with
  | nil => exact List.prefix_rfl
  | cons item items ih =>
      simp only [runItems, List.flatMap_cons]
      by_cases hquiet : (runItem options item.content signal rules).signal = .raised
      · -- the batch is told to stop inside this item
        rw [hquiet, hraised, List.append_nil]
        have hunits := runItem_units_isPrefix_allUnits options item.content signal rules
        exact (hgrows item _ _ hunits).trans (List.prefix_append _ _)
      · rw [(runItem_of_quiet hquiet).1]
        exact (List.prefix_append_right_inj _).mpr (ih _)

theorem putForward_nil (minScore : Int) (item : Item) : putForward minScore item [] = [] := by
  unfold putForward candidatesOf
  split
  · rfl
  · rfl

/-- More units put more forward, and never anything in front of what there is. -/
theorem putForward_grows (minScore : Int) (item : Item) {us vs : List UnitResult}
    (h : us <+: vs) : putForward minScore item us <+: putForward minScore item vs := by
  have hfound : us.flatMap UnitResult.found <+: vs.flatMap UnitResult.found := by
    obtain ⟨rest, rfl⟩ := h
    rw [List.flatMap_append]
    exact List.prefix_append _ _
  unfold putForward candidatesOf
  split
  · rw [triage_candidates, triage_candidates]
    exact (hfound.filter _).map _
  · exact List.prefix_rfl

/-! ## Rules that do not ask to stop -/

/-- The reply without asking the scan to stop. -/
def Reply.steady : Reply → Reply
  | cancel => nothing
  | reply => reply

theorem Reply.eq_found_of_steady {reply : Reply} {start stop : Nat}
    (h : reply.steady = .found start stop) : reply = .found start stop := by
  cases reply with
  | cancel => cases h
  | nothing => cases h
  | found start' stop' => exact h
  | fault f => cases h

/-- The same search without asking the scan to stop. -/
def Matcher.steady (m : Matcher) : Matcher where
  search content pos := (m.search content pos).steady
  bounds hp h := m.bounds hp (Reply.eq_found_of_steady h)

/-- The same rule without asking the scan to stop. -/
def CompiledRule.steady (r : CompiledRule) : CompiledRule :=
  { r with matcher := r.matcher.steady }

/-- The same ending with nothing asked. -/
def Ending.steady : Ending → Ending
  | cancelled => exhausted
  | ending => ending

/-- A rule that does not ask to stop makes the same pass, up to what it asks. -/
theorem Sweeps.steady {r : CompiledRule} {options : Options} {content : Text} {pos : Nat}
    {p : Pass} (h : Sweeps r options content pos p) :
    Sweeps r.steady options content pos ⟨p.found, p.ending.steady⟩ := by
  have hsearch {pos : Nat} {reply : Reply} (h : r.matcher.search content pos = reply) :
      r.steady.matcher.search content pos = reply.steady := congrArg Reply.steady h
  induction h with
  | beyond hout => exact .beyond hout
  | nothing hin hreply => exact .nothing hin (hsearch hreply)
  | cancel hin hreply => exact .nothing hin (hsearch hreply)
  | fault hin hreply => exact .fault hin (hsearch hreply)
  | empty hin hreply _ ih => exact .empty hin (hsearch hreply) ih
  | failed hin hreply hne hfault => exact .failed hin (hsearch hreply) hne hfault
  | found hin hreply hne hresult _ ih => exact .found hin (hsearch hreply) hne hresult ih

/-- A unit of a rule that does not ask to stop differs in nothing else. -/
theorem unitOf_steady (options : Options) (content : Text) (r : CompiledRule) :
    unitOf options content r.steady = { unitOf options content r with cancels := false } := by
  unfold unitOf CompiledRule.apply
  split
  · rfl
  · split
    · rfl
    · rw [passFrom_of_sweeps (sweeps_passFrom r options content 0).steady]
      unfold Pass.result
      cases (r.passFrom options content 0).ending with
      | exhausted => rfl
      | cancelled => rfl
      | failed f => rfl

theorem allUnits_steady (options : Options) (content : Text) (rules : List CompiledRule) :
    allUnits options content (rules.map CompiledRule.steady)
      = (allUnits options content rules).map fun u => { u with cancels := false } := by
  unfold allUnits
  rw [List.map_map, List.map_map]
  exact List.map_congr_left fun r _ => unitOf_steady options content r

/-- A batch that neither the outside nor a rule asks to stop is never told to. -/
theorem undisturbed_steady {settings : BatchSettings} (hsilent : settings.signal = .silent)
    (rules : List CompiledRule) (items : List Item) :
    Undisturbed settings (rules.map CompiledRule.steady) items := by
  refine undisturbed_iff.mpr ⟨fun item _ u hu => ?_, ?_⟩
  · rw [allUnits_steady] at hu
    obtain ⟨u', -, rfl⟩ := List.mem_map.mp hu
    rfl
  · rw [hsilent]
    trivial

/-! ## Batches that are cut short -/

/-- The signal when `n` units have been started. -/
def signalAfter (settings : BatchSettings) (rules : List CompiledRule) (items : List Item)
    (n : Nat) : Signal :=
  settings.signal.after ((items.flatMap (itemCancels settings.options rules)).take n)

/-- The batch is told to stop when `n` of its units have been started: before the first one if `n`
is zero, and else while the last of them runs. -/
def ToldAfter (settings : BatchSettings) (rules : List CompiledRule) (items : List Item)
    (n : Nat) : Prop :=
  n ≤ items.length * rules.length
    ∧ signalAfter settings rules items n = .raised
    ∧ ∀ m < n, signalAfter settings rules items m ≠ .raised

instance (settings : BatchSettings) (rules : List CompiledRule) (items : List Item) (n : Nat) :
    Decidable (ToldAfter settings rules items n) :=
  inferInstanceAs (Decidable (_ ∧ _ ∧ _))

/-- What is put forward does not depend on whether units ask to stop. -/
theorem putForward_steady (minScore : Int) (item : Item) (us : List UnitResult) :
    putForward minScore item (us.map fun u => { u with cancels := false })
      = putForward minScore item us := by
  unfold putForward candidatesOf
  rw [List.flatMap_map]

theorem unitFailures_steady (location : Text) (us : List UnitResult) :
    unitFailures location (us.map fun u => { u with cancels := false })
      = unitFailures location us := by
  unfold unitFailures
  rw [List.filterMap_map]
  rfl

/--
**A batch that is told to stop reports a beginning.**

Let a batch with valid locations be told to stop, by whomever and at any of its units. Its findings
are a beginning of the findings of the same batch that nobody tells to stop, and its failures are a
beginning of that batch's failures. The units that are started are the first ones of all units, and
the unit that runs when the batch is told is the last of them. The items that count as scanned are
those with all their units among them.

In the batch that nobody tells to stop, rules do not ask for it either (`CompiledRule.steady`).
-/
theorem scanBatch_stopped (settings : BatchSettings) (rules : List CompiledRule)
    (items : List Item) (hloc : ∀ item ∈ items, Location.Valid item.location) (n : Nat)
    (htold : ToldAfter settings rules items n) :
    ∃ r full : BatchResult,
      (scanBatch settings rules items).1 = .ok r
      ∧ (scanBatch { settings with signal := .silent } (rules.map CompiledRule.steady) items).1
          = .ok full
      ∧ full.cancelled = false
      ∧ r.findings <+: full.findings
      ∧ r.failures <+: full.failures
      ∧ ((batchRuns settings rules items).flatMap fun x => x.2.units)
          = (items.flatMap fun item => allUnits settings.options item.content rules).take n
      ∧ (rules ≠ [] → r.itemsScanned = n / rules.length) := by
  obtain ⟨r, hr, account⟩ := exists_account settings rules items
  obtain ⟨full, hfull, fullAccount⟩ := exists_account { settings with signal := .silent }
    (rules.map CompiledRule.steady) items
  have hquiet : Undisturbed { settings with signal := .silent } (rules.map CompiledRule.steady)
      items := undisturbed_steady rfl rules items
  obtain ⟨hn, hraised, hbefore⟩ := htold
  rw [← flatMap_itemCancels_length settings.options rules items] at hn
  have hstarted := Signal.started_eq hn hraised hbefore
  refine ⟨r, full, hr, hfull, fullAccount.cancelled_of_quiet hquiet, ?_, ?_, ?_, ?_⟩
  · -- the duplicates of what is put forward first do not depend on what follows
    obtain ⟨d, hd, hfindings⟩ := account.findings
    obtain ⟨e, he, hfullFindings⟩ := fullAccount.findings
    rw [flatMap_batchRuns_of_quiet (putForward settings.minScore) hquiet] at he
    simp only [allUnits_steady, putForward_steady] at he
    rw [hfindings, hfullFindings]
    exact hd.kept_isPrefix_kept he (runItems_tells (putForward_nil _)
      (fun item _ _ => putForward_grows _ item) settings.signal items)
  · rw [account.failures_of_valid hloc, fullAccount.failures_of_valid hloc,
      flatMap_batchRuns_of_quiet (fun item us => unitFailures item.location us) hquiet]
    simp only [allUnits_steady, unitFailures_steady]
    exact runItems_tells (g := fun item us => unitFailures item.location us) (fun _ => rfl)
      (fun _ _ _ h => h.filterMap _) settings.signal items
  · rw [← hstarted]
    exact runItems_units settings.signal items
  · intro hrules
    rw [account.itemsScanned_of_valid hloc, ← hstarted]
    exact congrArg Nat.cast (countP_complete settings.signal items hrules)

/-- The second of three items is left with one of its two rules, and still reports what that rule
found. -/
theorem scanBatch_stopped_inside :
    let rules := (compileAll [.ofPattern "key" "Key" "k[0-9]+".toList,
      .ofPattern "word" "Word" "[xyz]+".toList]).1.rules.entries
    let settings : BatchSettings := { BatchSettings.default with signal := .pending 2 }
    let items : List Item := [⟨"k12 xyz".toList, "a.py?x".toList⟩,
      ⟨"k12 k3 zy".toList, "a.py".toList⟩, ⟨"k4".toList, "b.py".toList⟩]
    (∀ item ∈ items, Location.Valid item.location)
      ∧ ToldAfter settings rules items 3
      ∧ ∃ r full : BatchResult,
        (scanBatch settings rules items).1 = .ok r
        ∧ (scanBatch { settings with signal := .silent } (rules.map CompiledRule.steady) items).1
            = .ok full
        ∧ full.cancelled = false
        ∧ r.findings <+: full.findings
        ∧ r.failures <+: full.failures
        ∧ ((batchRuns settings rules items).flatMap fun x => x.2.units)
            = (items.flatMap fun item => allUnits settings.options item.content rules).take 3
        ∧ (rules ≠ [] → r.itemsScanned = 3 / rules.length) := by
  intro rules settings items
  have hloc : ∀ item ∈ items, Location.Valid item.location := by decide +kernel
  have htold : ToldAfter settings rules items 3 := by decide +kernel
  exact ⟨hloc, htold, scanBatch_stopped settings rules items hloc 3 htold⟩

end SecretScan
