import SecretScan.Proofs.Scan.Unit

/-!
# Runs that are not told to stop

A batch is told to stop from outside, by its signal, or from inside, by a unit. Being told is
forever: the signal after a run is that before it, moved on over *all* units, also those that were
left out because of it (`runItems_signal`). So it can be read off the end of a run whether the batch
was told: it was not exactly if no unit asks for it and the outside leaves time for all of them
(`undisturbed_iff`). Hence a batch of fewer units is stopped only if the larger one is.
-/

namespace SecretScan

namespace Signal

/-- The signal after units, given which of them ask the batch to stop. -/
def after (s : Signal) (cancels : List Bool) : Signal :=
  cancels.foldl (fun s c => s.next c) s

@[simp] theorem after_nil (s : Signal) : s.after [] = s := rfl

@[simp] theorem after_cons (s : Signal) (c : Bool) (cs : List Bool) :
    s.after (c :: cs) = (s.next c).after cs := rfl

theorem after_append (s : Signal) (cs ds : List Bool) :
    s.after (cs ++ ds) = (s.after cs).after ds := by
  unfold after
  exact List.foldl_append

/-- A batch that was told to stop stays so. -/
@[simp] theorem after_raised (cs : List Bool) : raised.after cs = raised := by
  induction cs with
  | nil => rfl
  | cons c cs ih => exact ih

/-- Whether the signal lets `n` units run to their end before it is raised from outside. -/
def Allows : Signal → Nat → Prop
  | raised, _ => False
  | pending units, n => n ≤ units
  | silent, _ => True

theorem Allows.mono {s : Signal} {m n : Nat} (h : s.Allows n) (hmn : m ≤ n) : s.Allows m := by
  cases s with
  | raised => exact h
  | pending units => exact Nat.le_trans hmn h
  | silent => trivial

/-- A unit that does not ask the batch to stop uses up one of those that may run. -/
theorem Allows.next {s : Signal} {n : Nat} (h : s.Allows (n + 1)) : (s.next false).Allows n := by
  cases s with
  | raised => exact h
  | pending units =>
      cases units with
      | zero => cases h
      | succ units => exact Nat.le_of_succ_le_succ h
  | silent => trivial

theorem Allows.ne_raised {s : Signal} {n : Nat} (h : s.Allows n) : s ≠ raised := by
  rintro rfl
  exact h

/-- A batch goes on to its end if no unit asks it to stop and the outside does not either. -/
theorem after_ne_raised_iff (s : Signal) (cs : List Bool) :
    s.after cs ≠ raised ↔ (∀ c ∈ cs, c = false) ∧ s.Allows cs.length := by
  induction cs generalizing s with
  | nil => cases s <;> simp [Allows]
  | cons c cs ih =>
      rw [after_cons, ih]
      cases s with
      | raised => simp [next, Allows]
      | silent => cases c <;> simp [next, Allows]
      | pending units =>
          cases units with
          | zero => simp [next, Allows]
          | succ units => cases c <;> simp [next, Allows]

end Signal

/-- Which units of an item ask the batch to stop. -/
def itemCancels (options : Options) (rules : List CompiledRule) (item : Item) : List Bool :=
  (allUnits options item.content rules).map UnitResult.cancels

theorem runItem_signal (options : Options) (content : Text) (signal : Signal)
    (rules : List CompiledRule) :
    (runItem options content signal rules).signal
      = signal.after ((allUnits options content rules).map UnitResult.cancels) := by
  induction rules generalizing signal with
  | nil => rfl
  | cons r rules ih =>
      rw [runItem, allUnits_cons, List.map_cons, Signal.after_cons]
      by_cases hs : signal = .raised
      · -- the units that are left out change nothing
        subst hs
        rw [if_pos rfl]
        exact (Signal.after_raised _).symm
      · rw [if_neg hs]
        exact ih _

/-- The signal after a batch, whether or not it was stopped on the way. -/
theorem runItems_signal (options : Options) (rules : List CompiledRule) (signal : Signal)
    (items : List Item) :
    (runItems options rules signal items).2
      = signal.after (items.flatMap (itemCancels options rules)) := by
  induction items generalizing signal with
  | nil => rfl
  | cons item items ih =>
      rw [List.flatMap_cons, Signal.after_append]
      exact (ih _).trans (congrArg (Signal.after · _) (runItem_signal ..))

/-! ## What is run -/

/-- The units of an item are the first ones of all its units. -/
theorem runItem_units_isPrefix_allUnits (options : Options) (content : Text) (signal : Signal)
    (rules : List CompiledRule) :
    (runItem options content signal rules).units <+: allUnits options content rules := by
  induction rules generalizing signal with
  | nil => exact List.prefix_rfl
  | cons r rules ih =>
      rw [runItem]
      split
      · exact List.nil_prefix
      · exact (List.prefix_cons_inj _).mpr (ih _)

/-- A run is complete if no unit is left out. -/
theorem runItem_complete_iff {options : Options} {content : Text} {signal : Signal}
    {rules : List CompiledRule} :
    (runItem options content signal rules).complete = true
      ↔ (runItem options content signal rules).units.length = rules.length := by
  induction rules generalizing signal with
  | nil => exact ⟨fun _ => rfl, fun _ => rfl⟩
  | cons r rules ih =>
      rw [runItem]
      by_cases hs : signal = .raised
      · rw [if_pos hs]
        exact ⟨fun h => absurd h Bool.false_ne_true, fun h => absurd h (Nat.zero_ne_add_one _)⟩
      · rw [if_neg hs]
        simp only [List.length_cons, Nat.add_right_cancel_iff]
        exact ih

/-- The run begins to apply the rules to the item: its units are the first ones of all, and it is
complete if these are all. -/
structure ItemRun.Begins (options : Options) (rules : List CompiledRule) (item : Item)
    (run : ItemRun) : Prop where
  /-- The units that were run. -/
  units : run.units <+: allUnits options item.content rules
  /-- Whether any is left out. -/
  complete : run.complete = true ↔ run.units.length = rules.length

theorem runItem_of_quiet {options : Options} {content : Text} {signal : Signal}
    {rules : List CompiledRule} (h : (runItem options content signal rules).signal ≠ .raised) :
    (runItem options content signal rules).units = allUnits options content rules
      ∧ (runItem options content signal rules).complete = true := by
  induction rules generalizing signal with
  | nil => exact ⟨rfl, rfl⟩
  | cons r rules ih =>
      rw [runItem] at h ⊢
      by_cases hs : signal = .raised
      · rw [if_pos hs] at h
        exact absurd hs h
      · rw [if_neg hs] at h ⊢
        obtain ⟨hu, hc⟩ := ih h
        exact ⟨congrArg (_ :: ·) hu, hc⟩

/-- The batch is never told to stop while it runs: not from outside, and not by one of its units. -/
def Undisturbed (settings : BatchSettings) (rules : List CompiledRule) (items : List Item) : Prop :=
  (runItems settings.options rules settings.signal items).2 ≠ .raised

instance (settings : BatchSettings) (rules : List CompiledRule) (items : List Item) :
    Decidable (Undisturbed settings rules items) :=
  inferInstanceAs (Decidable (_ ≠ _))

/-- If the batch is not told to stop, every unit of every item is run. -/
theorem runItems_of_quiet {options : Options} {rules : List CompiledRule} {signal : Signal}
    {items : List Item} (h : (runItems options rules signal items).2 ≠ .raised) :
    (runItems options rules signal items).1.map (fun r => (r.1, r.2.units, r.2.complete))
      = items.map fun item => (item, allUnits options item.content rules, true) := by
  induction items generalizing signal with
  | nil => rfl
  | cons item items ih =>
      rw [runItems_signal, List.flatMap_cons, Signal.after_append] at h
      have hrun : (runItem options item.content signal rules).signal ≠ .raised := by
        intro hr
        rw [runItem_signal] at hr
        exact h (by rw [itemCancels, hr, Signal.after_raised])
      obtain ⟨hu, hc⟩ := runItem_of_quiet hrun
      have hquiet : (runItems options rules (runItem options item.content signal rules).signal
          items).2 ≠ .raised := by
        rw [runItems_signal, runItem_signal]
        exact h
      have hrest := ih hquiet
      simp only [runItems, List.map_cons, hu, hc, hrest]

theorem itemCancels_length (options : Options) (rules : List CompiledRule) (item : Item) :
    (itemCancels options rules item).length = rules.length := by
  rw [itemCancels, allUnits, List.length_map, List.length_map]

/-- Every rule makes one unit with every item. -/
theorem flatMap_itemCancels_length (options : Options) (rules : List CompiledRule)
    (items : List Item) :
    (items.flatMap (itemCancels options rules)).length = items.length * rules.length := by
  induction items with
  | nil => exact (Nat.zero_mul _).symm
  | cons item items ih =>
      rw [List.flatMap_cons, List.length_append, ih, itemCancels_length, List.length_cons,
        Nat.succ_mul, Nat.add_comm]

/-- A batch goes on to its end if no unit of any rule and item asks it to stop, and if the outside
lets as many units run as there are. -/
theorem undisturbed_iff {settings : BatchSettings} {rules : List CompiledRule}
    {items : List Item} :
    Undisturbed settings rules items ↔
      (∀ item ∈ items, ∀ u ∈ allUnits settings.options item.content rules, u.cancels = false)
        ∧ settings.signal.Allows (items.length * rules.length) := by
  have hunits : (∀ c ∈ items.flatMap (itemCancels settings.options rules), c = false)
      ↔ ∀ item ∈ items, ∀ u ∈ allUnits settings.options item.content rules,
        u.cancels = false := by
    simp [itemCancels]
  rw [Undisturbed, runItems_signal, Signal.after_ne_raised_iff, flatMap_itemCancels_length, hunits]

/-- A batch with fewer rules is not told to stop if the one with all of them is not. -/
theorem Undisturbed.of_sublist {settings : BatchSettings} {rules rules' : List CompiledRule}
    {items : List Item} (hsub : rules'.Sublist rules) (h : Undisturbed settings rules items) :
    Undisturbed settings rules' items := by
  obtain ⟨hunits, hsignal⟩ := undisturbed_iff.mp h
  refine undisturbed_iff.mpr ⟨fun item hitem u hu => ?_, ?_⟩
  · exact hunits item hitem u ((hsub.map _).subset hu)
  · exact hsignal.mono (Nat.mul_le_mul_left _ hsub.length_le)

/-- A batch of some of the items is not told to stop either. -/
theorem Undisturbed.of_sublist_items {settings : BatchSettings} {rules : List CompiledRule}
    {items items' : List Item} (hsub : items'.Sublist items)
    (h : Undisturbed settings rules items) : Undisturbed settings rules items' := by
  obtain ⟨hunits, hsignal⟩ := undisturbed_iff.mp h
  exact undisturbed_iff.mpr ⟨fun item hitem => hunits item (hsub.subset hitem),
    hsignal.mono (Nat.mul_le_mul_right _ hsub.length_le)⟩

theorem Undisturbed.of_mem {settings : BatchSettings} {rules : List CompiledRule}
    {items : List Item} {item : Item} (hmem : item ∈ items)
    (h : Undisturbed settings rules items) : Undisturbed settings rules [item] :=
  h.of_sublist_items (List.singleton_sublist.mpr hmem)

end SecretScan
