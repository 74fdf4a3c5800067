import SecretScan.Proofs.Scan.Pass
import SecretScan.Scan.Batch

/-!
# Whose matches a unit finds

A unit finds matches that its own rule admits, whatever its matcher answers and however it ends
(`admitted_of_mem_unitOf`). So the matches and the failures of some rules are those of their own
units, and they can be told apart from the rest by the identifier.
-/

namespace SecretScan

/-- A unit is known by its rule. -/
theorem unitOf_ruleId (options : Options) (content : Text) (r : CompiledRule) :
    (unitOf options content r).ruleId = r.id := by
  unfold unitOf CompiledRule.apply Pass.result
  split
  · rfl
  · split
    · rfl
    · split <;> rfl

/-- A unit tells what its pass found, or nothing at all. -/
theorem Pass.found_result_subset (p : Pass) (ruleId : String) :
    (p.result ruleId).found ⊆ p.found := by
  unfold result
  split
  · exact List.Subset.refl _
  · exact List.Subset.refl _
  · exact List.nil_subset _

/-- The matches of a unit are admitted by its rule. -/
theorem admitted_of_mem_unitOf {options : Options} {content : Text} {r : CompiledRule} :
    ∀ m ∈ (unitOf options content r).found, Admitted r options content m := by
  intro m hm
  unfold unitOf CompiledRule.apply at hm
  split at hm
  · cases hm
  · split at hm
    · cases hm
    · exact (sweeps_passFrom r options content 0).admitted m (Pass.found_result_subset _ _ hm)

/-- The matches of a unit belong to its rule. -/
theorem unitOf_found (options : Options) (content : Text) (r : CompiledRule) :
    ∀ m ∈ (unitOf options content r).found, m.ruleId = r.id :=
  fun m hm => (admitted_of_mem_unitOf m hm).ruleId

/-! ## All units of an item -/

/-- The units of all rules on one content. -/
def allUnits (options : Options) (content : Text) (rules : List CompiledRule) : List UnitResult :=
  rules.map (unitOf options content)

theorem allUnits_cons (options : Options) (content : Text) (r : CompiledRule)
    (rules : List CompiledRule) :
    allUnits options content (r :: rules)
      = unitOf options content r :: allUnits options content rules := rfl

theorem allUnits_length (options : Options) (content : Text) (rules : List CompiledRule) :
    (allUnits options content rules).length = rules.length :=
  List.length_map _

/-- Nothing is found in content without any character, so it does not matter that it is left out. -/
theorem allUnits_found (options : Options) (content : Text) (rules : List CompiledRule) :
    (allUnits options content rules).flatMap UnitResult.found = scan options content rules := by
  unfold allUnits scan scanUnits unitOf
  by_cases he : content.isEmpty
  · simp [he, UnitResult.idle]
  · simp [he]

/-- Nothing fails on content without any character. -/
theorem allUnits_failures (options : Options) (content location : Text)
    (rules : List CompiledRule) :
    unitFailures location (allUnits options content rules)
      = unitFailures location (scanUnits options content rules) := by
  unfold allUnits scanUnits unitOf
  by_cases he : content.isEmpty
  · simp [he, UnitResult.idle, unitFailures]
  · simp [he]

/-! ## The units of some rules -/

section Restrict

variable (p : String → Bool) (options : Options) (content location : Text)

theorem allUnits_filter (rules : List CompiledRule) :
    allUnits options content (rules.filter fun r => p r.id)
      = (allUnits options content rules).filter fun u => p u.ruleId := by
  unfold allUnits
  rw [List.filter_map]
  congr 1
  exact List.filter_congr fun r _ => by simp [unitOf_ruleId]

/-- The matches of some rules are the matches of their units. -/
theorem found_filter (rules : List CompiledRule) :
    (allUnits options content (rules.filter fun r => p r.id)).flatMap UnitResult.found
      = ((allUnits options content rules).flatMap UnitResult.found).filter fun m => p m.ruleId := by
  induction rules with
  | nil => rfl
  | cons r rules ih =>
      have hfound := unitOf_found options content r
      rw [List.filter_cons, allUnits_cons, List.flatMap_cons, List.filter_append]
      by_cases hp : p r.id
      · have hall : (unitOf options content r).found.filter (fun m => p m.ruleId)
            = (unitOf options content r).found :=
          List.filter_eq_self.mpr fun m hm => by rw [hfound m hm]; exact hp
        rw [if_pos hp, allUnits_cons, List.flatMap_cons, hall, ih]
      · have hnone : (unitOf options content r).found.filter (fun m => p m.ruleId) = [] :=
          List.filter_eq_nil_iff.mpr fun m hm => by rw [hfound m hm]; exact hp
        rw [if_neg hp, hnone, ih, List.nil_append]

/-- The failures of some rules are the failures of their units. -/
theorem unitFailures_filter (units : List UnitResult) :
    unitFailures location (units.filter fun u => p u.ruleId)
      = (unitFailures location units).filter fun f => p f.ruleId := by
  induction units with
  | nil => rfl
  | cons u units ih =>
      unfold unitFailures at ih ⊢
      by_cases hp : p u.ruleId
      · cases hf : u.failure <;> simp [hp, hf, ih]
      · cases hf : u.failure <;> simp [hp, hf, ih]

end Restrict

end SecretScan
