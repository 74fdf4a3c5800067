import SecretScan.Proofs.Rule.Catalog
import SecretScan.Rule.Compile

/-!
# What a list of rules compiles to

Each rule is compiled by itself, so a list of rules is known once every single `compile` is known. A
rule that fails leaves a diagnostic behind and nothing else (`compileInto_rules`,
`compileInto_diagnostics`). What the set holds is therefore the catalogue of those that compile:
ordered by the first of each identifier, holding the last of it (`compileAll_rules`). All of this
holds for every engine.
-/

namespace SecretScan

variable (engine : Engine)

/-! ## One rule -/

namespace Rule

/-- Whether the rule compiles. -/
def Compiles (rule : Rule) : Bool :=
  (compile engine rule).rule?.isSome

/-- Whether the rule compiles although the balance check rejects its native pattern. -/
def IsDoubtful (rule : Rule) : Bool :=
  (compile engine rule).rule?.any fun r => !(Pattern.balance r.native.pattern).isValid

end Rule

theorem Pattern.Balance.message?_eq_none_iff {b : Pattern.Balance} :
    b.message? = none ↔ b.isValid = true := by
  cases b <;> simp [message?, isValid]

/-- What compiling a rule can yield. -/
theorem compile_cases (rule : Rule) :
    (∃ r, compile engine rule = .compiled r ∧ r.rule = rule
      ∧ (Pattern.balance r.native.pattern).isValid = true)
    ∨ (∃ r d, compile engine rule = .doubtful r d ∧ r.rule = rule ∧ d.ruleId = rule.id
      ∧ d.accepted = true ∧ (Pattern.balance r.native.pattern).isValid = false)
    ∨ (∃ d, compile engine rule = .failed d ∧ d.ruleId = rule.id ∧ d.accepted = false) := by
  unfold compile
  split
  · exact .inr (.inr ⟨_, rfl, rfl, rfl⟩)
  · next pattern _ =>
    dsimp only
    split
    · exact .inr (.inr ⟨_, rfl, rfl, rfl⟩)
    · split
      · next h => exact .inl ⟨_, rfl, rfl, Pattern.Balance.message?_eq_none_iff.mp h⟩
      · next message h =>
        refine .inr (.inl ⟨_, _, rfl, rfl, rfl, rfl, ?_⟩)
        rw [← Bool.not_eq_true, ← Pattern.Balance.message?_eq_none_iff, h]
        nofun

theorem rule_of_rule?_compile {engine : Engine} {rule : Rule} {r : CompiledRule}
    (h : (compile engine rule).rule? = some r) : r.rule = rule := by
  rcases compile_cases engine rule with ⟨r', hc, hr, -⟩ | ⟨r', d, hc, hr, -⟩ | ⟨d, hc, -⟩
  · rw [hc] at h
    exact Option.some.inj h ▸ hr
  · rw [hc] at h
    exact Option.some.inj h ▸ hr
  · rw [hc] at h
    cases h

/-- A rule has a diagnostic that refuses it exactly if it does not compile. -/
theorem filter_refused_compile (rule : Rule) :
    ((compile engine rule).diagnostic?.toList.filter fun d => !d.accepted).map Diagnostic.ruleId
      = if rule.Compiles engine then [] else [rule.id] := by
  unfold Rule.Compiles
  rcases compile_cases engine rule with ⟨r, hc, -⟩ | ⟨r, d, hc, -, -, hd, -⟩ | ⟨d, hc, hid, hd⟩
  · rw [hc]; rfl
  · simp [hc, Compilation.rule?, Compilation.diagnostic?, hd]
  · simp [hc, Compilation.rule?, Compilation.diagnostic?, hd, hid]

/-- A rule has a diagnostic that accepts it exactly if it is doubtful. -/
theorem filter_accepted_compile (rule : Rule) :
    ((compile engine rule).diagnostic?.toList.filter Diagnostic.accepted).map Diagnostic.ruleId
      = if rule.IsDoubtful engine then [rule.id] else [] := by
  unfold Rule.IsDoubtful
  rcases compile_cases engine rule with ⟨r, hc, -, hb⟩ | ⟨r, d, hc, -, hid, hd, hb⟩ | ⟨d, hc, -, hd⟩
  · simp [hc, Compilation.rule?, Compilation.diagnostic?, hb]
  · simp [hc, Compilation.rule?, Compilation.diagnostic?, hb, hd, hid]
  · simp [hc, Compilation.rule?, Compilation.diagnostic?, hd]

/-! ## A list of rules -/

/-- The rules that compile, compiled. -/
def usableRules (rules : List Rule) : List CompiledRule :=
  rules.filterMap fun rule => (compile engine rule).rule?

theorem map_rule_usableRules (rules : List Rule) :
    (usableRules engine rules).map CompiledRule.rule = rules.filter (Rule.Compiles engine) := by
  induction rules with
  | nil => rfl
  | cons rule rules ih =>
      rw [usableRules, List.filterMap_cons, List.filter_cons, Rule.Compiles]
      cases h : (compile engine rule).rule? with
      | none => exact ih
      | some r =>
          rw [Option.isSome_some, if_pos rfl, List.map_cons, rule_of_rule?_compile h]
          exact congrArg (rule :: ·) ih

namespace RuleSet

/-- A rule that fails leaves the rules of the set as they are. -/
theorem compileInto_rules (set : RuleSet) (rules : List Rule) :
    (compileInto engine set rules).1.rules = set.rules.putAll (usableRules engine rules) := by
  induction rules generalizing set with
  | nil => rfl
  | cons rule rules ih =>
      rw [compileInto, usableRules, List.filterMap_cons]
      dsimp only
      rw [ih, add]
      cases (compile engine rule).rule? with
      | none => rfl
      | some r => rfl

theorem compileInto_diagnostics (set : RuleSet) (rules : List Rule) :
    (compileInto engine set rules).1.diagnostics
      = set.diagnostics ++ rules.filterMap fun rule => (compile engine rule).diagnostic? := by
  induction rules generalizing set with
  | nil => exact (List.append_nil _).symm
  | cons rule rules ih =>
      rw [compileInto, List.filterMap_cons]
      dsimp only
      rw [ih, add, List.append_assoc]
      cases (compile engine rule).diagnostic? with
      | none => rfl
      | some d => rfl

end RuleSet

/-- The rules that compile are put into the set one after the other. -/
theorem rules_compileAll (rules : List Rule) :
    (compileAll rules engine).1.rules = Catalog.empty.putAll (usableRules engine rules) :=
  RuleSet.compileInto_rules engine .empty rules

theorem diagnostics_compileAll (rules : List Rule) :
    (compileAll rules engine).1.diagnostics
      = rules.filterMap fun rule => (compile engine rule).diagnostic? :=
  RuleSet.compileInto_diagnostics engine .empty rules

/-- The identifiers of the diagnostics of one kind are those of the rules that have such a one. -/
theorem map_ruleId_filter_diagnostics {p : Diagnostic → Bool} {q : Rule → Bool}
    (h : ∀ rule, ((compile engine rule).diagnostic?.toList.filter p).map Diagnostic.ruleId
      = if q rule then [rule.id] else []) (rules : List Rule) :
    ((rules.filterMap fun rule => (compile engine rule).diagnostic?).filter p).map Diagnostic.ruleId
      = (rules.filter q).map Rule.id := by
  induction rules with
  | nil => rfl
  | cons rule rules ih =>
      have hsplit : (rule :: rules).filterMap (fun rule => (compile engine rule).diagnostic?)
          = (compile engine rule).diagnostic?.toList
            ++ rules.filterMap fun rule => (compile engine rule).diagnostic? := by
        rw [List.filterMap_cons]
        cases (compile engine rule).diagnostic? <;> rfl
      rw [hsplit, List.filter_append, List.map_append, h, ih, List.filter_cons]
      cases q rule <;> rfl

/--
**What a list of rules compiles to.**

The identifiers are those of the rules that compile, in the order in which the first of each stands,
and under an identifier is the last rule with it that compiles, as it compiles by itself. The
diagnostics are those of the single rules, in the order of the rules: one refuses each rule that
does not compile, and one accepts each rule that compiles against the balance check.
-/
theorem compileAll_rules (rules : List Rule) :
    let set := (compileAll rules engine).1
    set.rules.keys = ((rules.filter (Rule.Compiles engine)).map Rule.id).eraseDups
      ∧ (∀ id, (set.rules.find? id).map CompiledRule.rule
          = (rules.filter fun rule => rule.id = id && rule.Compiles engine).getLast?)
      ∧ (∀ id r, set.rules.find? id = some r → (compile engine r.rule).rule? = some r)
      ∧ set.diagnostics = rules.filterMap (fun rule => (compile engine rule).diagnostic?)
      ∧ set.failures.map Diagnostic.ruleId
          = (rules.filter fun rule => !rule.Compiles engine).map Rule.id
      ∧ (set.diagnostics.filter Diagnostic.accepted).map Diagnostic.ruleId
          = (rules.filter (Rule.IsDoubtful engine)).map Rule.id := by
  intro set
  have hrules : set.rules = Catalog.empty.putAll (usableRules engine rules) :=
    rules_compileAll engine rules
  have hdiagnostics : set.diagnostics
      = rules.filterMap fun rule => (compile engine rule).diagnostic? :=
    diagnostics_compileAll engine rules
  have hids : (usableRules engine rules).map CompiledRule.id
      = (rules.filter (Rule.Compiles engine)).map Rule.id := by
    rw [← map_rule_usableRules, List.map_map]
    rfl
  have hfind : ∀ id, set.rules.find? id
      = ((usableRules engine rules).filter (·.id = id)).getLast? := by
    intro id
    rw [hrules, Catalog.find?_putAll]
    exact Option.or_none
  refine ⟨?_, fun id => ?_, fun id r hr => ?_, hdiagnostics, ?_, ?_⟩
  · rw [hrules, Catalog.keys_putAll, hids]
  · rw [hfind, ← List.getLast?_map, ← List.filter_filter, ← map_rule_usableRules, List.filter_map]
    rfl
  · rw [hfind] at hr
    have hmem := (List.mem_filter.mp (List.mem_of_getLast? hr)).1
    obtain ⟨rule, -, hrule⟩ := List.mem_filterMap.mp hmem
    rwa [rule_of_rule?_compile hrule]
  · rw [RuleSet.failures, hdiagnostics]
    refine map_ruleId_filter_diagnostics engine (fun rule => ?_) rules
    rw [filter_refused_compile]
    cases rule.Compiles engine <;> rfl
  · rw [hdiagnostics]
    exact map_ruleId_filter_diagnostics engine (filter_accepted_compile engine) rules

end SecretScan
