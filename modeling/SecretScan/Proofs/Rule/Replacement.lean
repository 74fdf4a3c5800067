import SecretScan.Proofs.Rule.Compilation
import SecretScan.Rule.Registry

/-!
# Replacing rules before and after compiling

A list of rules can be compiled as it stands, or taken into a registry first and compiled from
there. Both keep one rule for each identifier, but a registry settles which one before it is known
whether that rule compiles, and `compileAll` afterwards. So under an identifier a registry yields
the last rule that has it, if that one compiles (`find?_get_registerAll`), while `compileAll` yields
the last rule that has it and compiles (`find?_compileAll`). The two differ where the last rule of
an identifier is broken and an earlier one is not: there a replacement that does not compile takes
away the rule it was meant to replace.
-/

namespace SecretScan

variable {engine : Engine}

/-! ## The list as it stands -/

theorem filter_id_usableRules (rules : List Rule) (id : String) :
    (usableRules engine rules).filter (·.id = id)
      = usableRules engine (rules.filter (·.id = id)) := by
  rw [usableRules, usableRules, List.filter_filterMap, List.filterMap_filter]
  refine congrArg (List.filterMap · rules) (funext fun rule => ?_)
  cases h : (compile engine rule).rule? with
  | none => simp
  | some r =>
      have hid : r.id = rule.id := congrArg Rule.id (rule_of_rule?_compile h)
      simp [Option.filter, hid]

/-- Under an identifier stands the last of its rules that compile. -/
theorem find?_compileAll (rules : List Rule) (id : String) :
    (compileAll rules engine).1.rules.find? id
      = (usableRules engine (rules.filter (·.id = id))).getLast? := by
  rw [rules_compileAll, Catalog.find?_putAll, filter_id_usableRules]
  exact Option.or_none

theorem getLast?_usableRules_concat (rules : List Rule) (rule : Rule) :
    (usableRules engine (rules ++ [rule])).getLast?
      = (compile engine rule).rule?.or (usableRules engine rules).getLast? := by
  rw [usableRules, List.filterMap_append, List.getLast?_append, List.filterMap_cons,
    List.filterMap_nil]
  cases (compile engine rule).rule? <;> rfl

theorem usableRules_ne_nil_iff {rules : List Rule} :
    usableRules engine rules ≠ [] ↔ ∃ rule ∈ rules, rule.Compiles engine = true := by
  rw [ne_eq, ← List.map_eq_nil_iff (f := CompiledRule.rule), map_rule_usableRules,
    List.filter_eq_nil_iff]
  simp

/-- The identifiers stand in the order in which their first rules that compile do. -/
theorem keys_compileAll (rules : List Rule) :
    (compileAll rules engine).1.rules.keys
      = ((rules.filter (Rule.Compiles engine)).map Rule.id).eraseDups := by
  rw [rules_compileAll, Catalog.keys_putAll, ← map_rule_usableRules, List.map_map]
  rfl

/-- Rules that all compile are all accepted. -/
theorem failures_compileAll_of_compiles {rules : List Rule}
    (h : ∀ rule ∈ rules, rule.Compiles engine = true) :
    (compileAll rules engine).1.failures = [] := by
  have hrefused : ∀ rule,
      ((compile engine rule).diagnostic?.toList.filter fun d => !d.accepted).map Diagnostic.ruleId
        = if !rule.Compiles engine then [rule.id] else [] := by
    intro rule
    rw [filter_refused_compile]
    cases rule.Compiles engine <;> rfl
  have hnone : (rules.filter fun rule => !rule.Compiles engine) = [] := by
    rw [List.filter_eq_nil_iff]
    intro rule hrule
    simp [h rule hrule]
  rw [RuleSet.failures, diagnostics_compileAll, ← List.map_eq_nil_iff (f := Diagnostic.ruleId),
    map_ruleId_filter_diagnostics engine hrefused, hnone, List.map_nil]

/-! ## The list in a registry -/

namespace RuleCache

variable {rules : List Rule} {id : String}

/-- A cache that holds nothing compiles what the registry kept of the list. -/
theorem get_registerAll (rules : List Rule) :
    (empty.get (Registry.empty.registerAll rules) engine).1
      = (compileAll (Catalog.empty.putAll rules : Catalog Rule Rule.id).entries engine).1 := by
  have henabled : (Registry.empty.registerAll rules).enabled
      = (Catalog.empty.putAll rules : Catalog Rule Rule.id).entries :=
    List.filter_eq_self.mpr fun _ _ => rfl
  rw [← henabled]
  rfl

/-- Under an identifier stands the last of its rules, if that one compiles. -/
theorem find?_get_registerAll (rules : List Rule) (id : String) :
    (empty.get (Registry.empty.registerAll rules) engine).1.rules.find? id
      = (rules.filter (·.id = id)).getLast?.bind fun rule => (compile engine rule).rule? := by
  rw [get_registerAll, find?_compileAll, Catalog.filter_key, Catalog.find?_putAll]
  have hnone : (Catalog.empty : Catalog Rule Rule.id).find? id = none := rfl
  rw [hnone, Option.or_none]
  cases (rules.filter (·.id = id)).getLast? with
  | none => rfl
  | some rule => exact (getLast?_usableRules_concat [] rule).trans Option.or_none

/-- If the last rule of an identifier compiles, it counts in the list as it does in the registry. -/
theorem find?_compileAll_of_last {last : Rule} {r : CompiledRule}
    (hlast : (rules.filter (·.id = id)).getLast? = some last)
    (hr : (compile engine last).rule? = some r) :
    (compileAll rules engine).1.rules.find? id = some r := by
  obtain ⟨init, hinit⟩ := List.getLast?_eq_some_iff.mp hlast
  rw [find?_compileAll, hinit, getLast?_usableRules_concat, hr, Option.some_or]

/-- What a registry yields is what the list yields by itself. -/
theorem find?_compileAll_of_registered {r : CompiledRule}
    (h : (empty.get (Registry.empty.registerAll rules) engine).1.rules.find? id = some r) :
    (compileAll rules engine).1.rules.find? id = some r := by
  rw [find?_get_registerAll] at h
  obtain ⟨last, hlast, hr⟩ := Option.bind_eq_some_iff.mp h
  exact find?_compileAll_of_last hlast hr

theorem find?_get_registerAll_of_compiles (h : ∀ rule ∈ rules, rule.Compiles engine = true) :
    (empty.get (Registry.empty.registerAll rules) engine).1.rules.find? id
      = (compileAll rules engine).1.rules.find? id := by
  rw [find?_get_registerAll]
  cases hlast : (rules.filter (·.id = id)).getLast? with
  | none => rw [find?_compileAll, List.getLast?_eq_none_iff.mp hlast]; rfl
  | some last =>
      have hmem : last ∈ rules := (List.mem_filter.mp (List.mem_of_getLast? hlast)).1
      obtain ⟨r, hr⟩ := Option.isSome_iff_exists.mp (h last hmem)
      rw [find?_compileAll_of_last hlast hr, Option.bind_some, hr]

theorem keys_get_registerAll_of_compiles (h : ∀ rule ∈ rules, rule.Compiles engine = true) :
    (empty.get (Registry.empty.registerAll rules) engine).1.rules.keys
      = (compileAll rules engine).1.rules.keys := by
  have hkept : ∀ rule ∈ (Catalog.empty.putAll rules : Catalog Rule Rule.id).entries,
      rule.Compiles engine = true := fun rule hrule => h rule (Catalog.mem_of_mem_putAll hrule)
  have hdistinct : ((Catalog.empty.putAll rules : Catalog Rule Rule.id).entries.map
      Rule.id).eraseDups = (rules.map Rule.id).eraseDups :=
    (Catalog.eraseDups_of_nodup (Catalog.distinct _)).trans (Catalog.keys_putAll rules)
  rw [get_registerAll, keys_compileAll, keys_compileAll, List.filter_eq_self.mpr h,
    List.filter_eq_self.mpr hkept, hdistinct]

/-- An identifier is lost in the registry exactly if its last rule is broken and another one is
not. -/
theorem lost_iff :
    (id ∈ (compileAll rules engine).1.rules.keys
        ∧ id ∉ (empty.get (Registry.empty.registerAll rules) engine).1.rules.keys) ↔
      ∃ init broken, rules.filter (·.id = id) = init ++ [broken]
        ∧ broken.Compiles engine = false ∧ ∃ rule ∈ init, rule.Compiles engine = true := by
  rw [Catalog.mem_keys_iff, Catalog.mem_keys_iff, find?_compileAll, find?_get_registerAll]
  rcases List.eq_nil_or_concat (rules.filter (·.id = id)) with hnil | ⟨init, last, hconcat⟩
  · rw [hnil]
    refine ⟨fun h => absurd h.1 (by simp [usableRules]), ?_⟩
    rintro ⟨init, broken, hconcat, -⟩
    exact absurd hconcat.symm (by simp)
  · -- the registry asks the last rule only, the list goes on to those before it
    rw [hconcat, List.concat_eq_append, getLast?_usableRules_concat, List.getLast?_append]
    change ((compile engine last).rule?.or _).isSome = true ∧ ¬ last.Compiles engine = true ↔ _
    constructor
    · rintro ⟨husable, hbroken⟩
      have hnone : (compile engine last).rule? = none := by
        rwa [Rule.Compiles, Bool.not_eq_true, Option.isSome_eq_false_iff, Option.isNone_iff_eq_none]
          at hbroken
      rw [hnone, Option.none_or, List.getLast?_isSome, usableRules_ne_nil_iff] at husable
      exact ⟨init, last, rfl, (Bool.not_eq_true _).mp hbroken, husable⟩
    · rintro ⟨init', broken, hsplit, hbroken, hrule⟩
      obtain ⟨rfl, hlast⟩ := List.append_inj' hsplit rfl
      obtain rfl := List.singleton_inj.mp hlast
      refine ⟨?_, Bool.eq_false_iff.mp hbroken⟩
      rw [Option.isSome_or, List.getLast?_isSome.mpr (usableRules_ne_nil_iff.mpr hrule),
        Bool.or_true]

end RuleCache

/-- The rules that have an identifier, told by the place of the last one. -/
theorem filter_id_eq_concat_iff {rules init : List Rule} {broken : Rule} {id : String} :
    rules.filter (·.id = id) = init ++ [broken] ↔
      ∃ before after, rules = before ++ broken :: after ∧ broken.id = id
        ∧ (∀ rule ∈ after, rule.id ≠ id) ∧ before.filter (·.id = id) = init := by
  constructor
  · intro h
    -- the list is cut twice: behind the rules in `init`, and then before the last one
    obtain ⟨front, rest, rfl, hfront, hrest⟩ := List.filter_eq_append_iff.mp h
    obtain ⟨more, after, rfl, hmore, hbroken, hafter⟩ := List.filter_eq_cons_iff.mp hrest
    refine ⟨front ++ more, after, (List.append_assoc ..).symm, of_decide_eq_true hbroken, ?_, ?_⟩
    · intro rule hrule
      simpa using List.filter_eq_nil_iff.mp hafter rule hrule
    · rw [List.filter_append, hfront, List.filter_eq_nil_iff.mpr hmore, List.append_nil]
  · rintro ⟨before, after, rfl, hid, hafter, rfl⟩
    have hnil : after.filter (·.id = id) = [] :=
      List.filter_eq_nil_iff.mpr fun rule hrule => by simpa using hafter rule hrule
    rw [List.filter_append, List.filter_cons_of_pos (by simpa using hid), hnil]

/--
**What compiling through a registry comes to.**

If all rules compile, the registry yields the same rules as the list itself, in the same order, and
neither has a failure; only what the balance check says of a rule that is replaced is missing, since
the registry does not compile that rule. If no two rules have the same identifier, not even this is
missing, whatever compiles. In general the registry yields no rule that the list does not yield
under the same identifier and no diagnostic of its own. What it lacks are the identifiers whose last
rule does not compile although one in front of it does: the registry has dropped the working rule
for the broken one, while `compileAll` keeps it.
-/
theorem RuleCache.get_registered_agrees (engine : Engine) (rules : List Rule) :
    let registered := (RuleCache.empty.get (Registry.empty.registerAll rules) engine).1
    let direct := (compileAll rules engine).1
    ((∀ rule ∈ rules, rule.Compiles engine = true) →
        registered.rules = direct.rules ∧ registered.failures = [] ∧ direct.failures = [])
      ∧ ((rules.map Rule.id).Nodup → registered = direct)
      ∧ (∀ d ∈ registered.diagnostics, d ∈ direct.diagnostics)
      ∧ (∀ id r, registered.rules.find? id = some r → direct.rules.find? id = some r)
      ∧ ∀ id, (id ∈ direct.rules.keys ∧ id ∉ registered.rules.keys) ↔
          ∃ before broken after, rules = before ++ broken :: after
            ∧ broken.id = id ∧ (∀ rule ∈ after, rule.id ≠ id)
            ∧ broken.Compiles engine = false
            ∧ ∃ rule ∈ before, rule.id = id ∧ rule.Compiles engine = true := by
  intro registered direct
  refine ⟨fun hall => ?_, fun hnodup => ?_, fun d hd => ?_, ?_, fun id => ?_⟩
  · have hkeptCompile : ∀ rule ∈ (Catalog.empty.putAll rules : Catalog Rule Rule.id).entries,
        rule.Compiles engine = true := fun rule h => hall rule (Catalog.mem_of_mem_putAll h)
    refine ⟨Catalog.ext_of_find? (RuleCache.keys_get_registerAll_of_compiles hall) fun id =>
      RuleCache.find?_get_registerAll_of_compiles hall, ?_, failures_compileAll_of_compiles hall⟩
    show (RuleCache.empty.get (Registry.empty.registerAll rules) engine).1.failures = _
    rw [RuleCache.get_registerAll, failures_compileAll_of_compiles hkeptCompile]
  · show (RuleCache.empty.get (Registry.empty.registerAll rules) engine).1 = _
    rw [RuleCache.get_registerAll, Catalog.entries_putAll_of_nodup hnodup]
  · change d ∈ (RuleCache.empty.get (Registry.empty.registerAll rules) engine).1.diagnostics at hd
    rw [RuleCache.get_registerAll, diagnostics_compileAll] at hd
    rw [diagnostics_compileAll]
    obtain ⟨rule, hrule, hdiag⟩ := List.mem_filterMap.mp hd
    exact List.mem_filterMap.mpr ⟨rule, Catalog.mem_of_mem_putAll hrule, hdiag⟩
  · exact fun id r => RuleCache.find?_compileAll_of_registered
  · rw [RuleCache.lost_iff]
    constructor
    · rintro ⟨init, broken, hconcat, hbroken, rule, hrule, hcompiles⟩
      obtain ⟨before, after, hrules, hid, hafter, rfl⟩ := filter_id_eq_concat_iff.mp hconcat
      have hmem := List.mem_filter.mp hrule
      exact ⟨before, broken, after, hrules, hid, hafter, hbroken, rule, hmem.1,
        of_decide_eq_true hmem.2, hcompiles⟩
    · rintro ⟨before, broken, after, hrules, hid, hafter, hbroken, rule, hrule, hrid, hcompiles⟩
      exact ⟨_, broken, filter_id_eq_concat_iff.mpr ⟨before, after, hrules, hid, hafter, rfl⟩,
        hbroken, rule, List.mem_filter.mpr ⟨hrule, decide_eq_true hrid⟩, hcompiles⟩

/-- A replacement with an open group takes away the rule that it was meant to replace; the rule next
to it stays. -/
theorem get_registered_token_lost :
    let token := Rule.ofPattern "token" "Token" "t[0-9]+".toList
    let mine := Rule.ofPattern "token" "My token" "t([0-9]+".toList
    let rules := [token, .ofPattern "key" "Key" "k[0-9]+".toList, mine]
    let registered := (RuleCache.empty.get (Registry.empty.registerAll rules)).1
    let direct := (compileAll rules).1
    ("token" ∈ direct.rules.keys ∧ "token" ∉ registered.rules.keys)
      ∧ ∃ r, registered.rules.find? "key" = some r ∧ direct.rules.find? "key" = some r := by
  intro token mine rules registered direct
  obtain ⟨-, -, -, hsame, hlost⟩ := RuleCache.get_registered_agrees Regex.engine rules
  have hmine : mine.Compiles Regex.engine = false := by decide +kernel
  have htoken : token.Compiles Regex.engine = true := by decide +kernel
  have hkey : (registered.rules.find? "key").isSome = true := by decide +kernel
  obtain ⟨r, hr⟩ := Option.isSome_iff_exists.mp hkey
  exact ⟨(hlost "token").mpr ⟨rules.take 2, mine, [], rfl, rfl, List.forall_mem_nil _, hmine,
    token, List.mem_cons_self, rfl, htoken⟩, r, hr, hsame "key" r hr⟩

end SecretScan
