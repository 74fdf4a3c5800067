import SecretScan.Proofs.Regex.Grouping
import SecretScan.Proofs.Rule.Compilation

/-!
# The balance check and the engine

Only the engine decides whether a rule is usable, the balance check gives advice. All that is
assumed of the engine is how it divides a pattern: what it reads is grouped (`Engine.ReadsGroups`).
Where a native pattern misleads no walk (`Pattern.IsFamiliar`), the advice then never contradicts
the decision: no rule is accepted against it (`compileAll_accepts_none`).
-/

namespace SecretScan

/-- The engine reads no pattern that cannot be divided into groups and classes: groups have to be
closed, and parentheses in a class are members. -/
def Engine.ReadsGroups (engine : Engine) : Prop :=
  ∀ flags pattern matcher, engine.read flags pattern = .ok matcher → Pattern.IsGrouped pattern

theorem Regex.engine_readsGroups : Regex.engine.ReadsGroups := by
  intro flags pattern matcher h
  unfold Regex.engine at h
  dsimp only at h
  split at h
  · next hparse => exact Regex.isGrouped_of_parse hparse
  · cases h

variable {engine : Engine} {rule : Rule} {r : CompiledRule}

/-- What compiles has been read by the engine. -/
theorem exists_read_of_compile (h : (compile engine rule).rule? = some r) :
    ∃ matcher, engine.read (readingFlags r.native.flags) r.native.pattern = .ok matcher := by
  unfold compile at h
  split at h
  · cases h
  · dsimp only at h
    split at h
    · cases h
    · next matcher hread =>
      split at h
      · cases h
        exact ⟨matcher, hread⟩
      · cases h
        exact ⟨matcher, hread⟩

theorem balance_of_compile (hengine : engine.ReadsGroups)
    (h : (compile engine rule).rule? = some r) (hf : Pattern.IsFamiliar r.native.pattern) :
    Pattern.balance r.native.pattern = .balanced := by
  obtain ⟨matcher, hread⟩ := exists_read_of_compile h
  exact Pattern.balance_of_grouped (hengine _ _ _ hread) hf

/--
**The balance check never contradicts the engine.**

Whatever the engine, as long as it reads grouped patterns only: if the native pattern of no rule
that compiles misleads a walk, all these patterns are balanced, and no diagnostic accepts a rule
that the balance check rejects.
-/
theorem compileAll_accepts_none (engine : Engine) (hengine : engine.ReadsGroups)
    (rules : List Rule)
    (h : ∀ rule ∈ rules, ∀ r ∈ (compile engine rule).rule?,
      Pattern.IsFamiliar r.native.pattern) :
    (∀ rule ∈ rules, ∀ r ∈ (compile engine rule).rule?,
        Pattern.balance r.native.pattern = .balanced)
      ∧ ∀ d ∈ (compileAll rules engine).1.diagnostics, d.accepted = false := by
  have hbalanced : ∀ rule ∈ rules, ∀ r ∈ (compile engine rule).rule?,
      Pattern.balance r.native.pattern = .balanced :=
    fun rule hrule r hr => balance_of_compile hengine hr (h rule hrule r hr)
  refine ⟨hbalanced, fun d hd => ?_⟩
  rw [diagnostics_compileAll] at hd
  obtain ⟨rule, hrule, hd⟩ := List.mem_filterMap.mp hd
  rcases compile_cases engine rule with ⟨r, hc, -⟩ | ⟨r, d', hc, -, -, -, hb⟩ | ⟨d', hc, -, hno⟩
  · rw [hc] at hd
    cases hd
  · -- a rule accepted against the check would not be balanced
    have hbal := hbalanced rule hrule r (by rw [hc]; rfl)
    rw [hbal] at hb
    cases hb
  · rw [hc] at hd
    cases hd
    exact hno

/-- Such are classes with brackets and parentheses in them, and with named items of any kind. -/
theorem compileAll_accepts_none_class :
    let rules := [Rule.ofPattern "a" "a" "([]()[:alpha:]]|[[:White_Space:]x\\]])+".toList]
    (rules.map (Rule.Compiles Regex.engine) = [true]
      ∧ ∀ rule ∈ rules, ∀ r ∈ (compile Regex.engine rule).rule?,
        Pattern.IsFamiliar r.native.pattern)
    ∧ ∀ d ∈ (compileAll rules Regex.engine).1.diagnostics, d.accepted = false :=
  have hfamiliar : ∀ rule ∈ [Rule.ofPattern "a" "a"
      "([]()[:alpha:]]|[[:White_Space:]x\\]])+".toList],
      ∀ r ∈ (compile Regex.engine rule).rule?, Pattern.IsFamiliar r.native.pattern := by
    decide +kernel
  ⟨⟨by decide +kernel, hfamiliar⟩,
    (compileAll_accepts_none Regex.engine Regex.engine_readsGroups _ hfamiliar).2⟩

/-- A parenthesis behind a named item of the other kind, or in a comment group that only appears
while a pattern is brought into native form, is taken for syntax. -/
theorem compileAll_accepts_misleading :
    let accepts (pattern : String) : Prop :=
      ∃ d ∈ (compileAll [.ofPattern "a" "a" pattern.toList] Regex.engine).1.diagnostics,
        d.accepted = true
    accepts "[[:White_Space:](]" ∧ accepts "((?i)?#()" := by
  decide +kernel

end SecretScan
