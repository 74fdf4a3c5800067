import Mathlib.Data.List.Basic
import SecretScan.Proofs.Rule.Compilation

/-!
# What is told about rules that do not compile

What is wrong with a rule is kept twice: as a diagnostic of the rule set, and as an event for
whoever follows along. Both are made while a single rule is compiled, and one says what the other
says (`compile_events`). Besides, compiling a list only tells which rules are replaced and how many
there are in the end. So what is told is the diagnostics, in their order, with one exception: a rule
without a pattern leaves a diagnostic that nobody is told about (`compileAll_announces`).
-/

namespace SecretScan

variable (engine : Engine)

/-! ## Diagnostics and events -/

/-- The event that says what a diagnostic says. -/
def Diagnostic.event (d : Diagnostic) : Event :=
  if d.accepted then .validatorDisagreed d.ruleId d.objection.message
  else .compileFailed d.ruleId d.objection.message d.written d.converted

/-- Whether a diagnostic is about more than a missing pattern. -/
def Diagnostic.isTold (d : Diagnostic) : Bool :=
  d.objection ≠ .noPattern

namespace Event

/-- Whether an event tells that a rule does not compile. -/
def tellsFailure (e : Event) : Bool :=
  e.name = "rule_compile_failed"

/-- Whether an event tells that the balance check objects to a rule that compiles. -/
def tellsDisagreement (e : Event) : Bool :=
  e.name = "validator_disagreed"

/-- Whether an event tells of anything wrong with a rule. -/
def tellsObjection (e : Event) : Bool :=
  e.tellsFailure || e.tellsDisagreement

end Event

namespace Diagnostic

variable (d : Diagnostic)

theorem tellsFailure_event : d.event.tellsFailure = !d.accepted := by
  unfold event
  cases d.accepted <;> rfl

theorem tellsDisagreement_event : d.event.tellsDisagreement = d.accepted := by
  unfold event
  cases d.accepted <;> rfl

theorem tellsObjection_event : d.event.tellsObjection = true := by
  rw [Event.tellsObjection, tellsFailure_event, tellsDisagreement_event]
  cases d.accepted <;> rfl

/-- What is usable has a pattern. -/
theorem isTold_of_accepted {d : Diagnostic} (h : d.accepted = true) : d.isTold = true := by
  refine decide_eq_true fun hnone => ?_
  rw [accepted, hnone] at h
  cases h

end Diagnostic

/-! ## One rule -/

/-- What is told about a rule is its diagnostic, if that is told. -/
theorem compile_events (rule : Rule) :
    (compile engine rule).events
      = ((compile engine rule).diagnostic?.toList.filter Diagnostic.isTold).map Diagnostic.event := by
  rcases compile_cases engine rule with ⟨r, hc, -⟩ | ⟨r, d, hc, -, -, haccepted, -⟩ |
    ⟨d, hc, -, haccepted⟩
  · rw [hc]
    rfl
  · simp [hc, Compilation.events, Compilation.diagnostic?, Diagnostic.event, haccepted,
      Diagnostic.isTold_of_accepted haccepted]
  · rw [hc]
    cases hobjection : d.objection with
    | noPattern =>
        simp [Compilation.events, Compilation.diagnostic?, Diagnostic.isTold, hobjection]
    | refused complaint =>
        simp [Compilation.events, Compilation.diagnostic?, Diagnostic.isTold, Diagnostic.event,
          haccepted, hobjection]
    | unbalanced message =>
        rw [Diagnostic.accepted, hobjection] at haccepted
        cases haccepted

/-- The diagnostic of a rule is not told exactly if the rule has no pattern. -/
theorem filter_silent_compile (rule : Rule) :
    ((compile engine rule).diagnostic?.toList.filter fun d => !d.isTold).map Diagnostic.ruleId
      = if rule.usablePattern?.isNone then [rule.id] else [] := by
  unfold compile
  split
  · next hnone =>
      rw [hnone]
      rfl
  · next pattern hpattern =>
      rw [hpattern]
      dsimp only
      split
      · rfl
      · split <;> rfl

/-! ## A list of rules -/

/-- Nothing that is told about replacing a rule is an objection to it. -/
theorem RuleSet.filter_replacement (set : RuleSet) (c : Compilation) :
    (set.replacement c).filter Event.tellsObjection = [] := by
  unfold replacement
  split
  · split <;> rfl
  · rfl

/-- The objections that are told while rules are compiled are those to the single rules. -/
theorem RuleSet.filter_compileInto (set : RuleSet) (rules : List Rule) :
    (compileInto engine set rules).2.filter Event.tellsObjection
      = ((rules.filterMap fun rule => (compile engine rule).diagnostic?).filter
          Diagnostic.isTold).map Diagnostic.event := by
  induction rules generalizing set with
  | nil => rfl
  | cons rule rules ih =>
      have hevents : (compile engine rule).events.filter Event.tellsObjection
          = (compile engine rule).events := by
        rw [List.filter_eq_self]
        intro e he
        rw [compile_events] at he
        obtain ⟨d, -, rfl⟩ := List.mem_map.mp he
        exact d.tellsObjection_event
      have hsplit : (rule :: rules).filterMap (fun rule => (compile engine rule).diagnostic?)
          = (compile engine rule).diagnostic?.toList
            ++ rules.filterMap fun rule => (compile engine rule).diagnostic? := by
        rw [List.filterMap_eq_flatMap_toList, List.filterMap_eq_flatMap_toList, List.flatMap_cons]
      rw [compileInto]
      dsimp only
      rw [List.filter_append, List.filter_append, filter_replacement, ih, hevents, compile_events,
        hsplit, List.filter_append, List.map_append, List.append_nil]

/-- **What is told of objections is the diagnostics, in their order.** -/
theorem filter_tellsObjection_compileAll (rules : List Rule) :
    (compileAll rules engine).2.filter Event.tellsObjection
      = ((compileAll rules engine).1.diagnostics.filter Diagnostic.isTold).map Diagnostic.event := by
  have hevents : (compileAll rules engine).2.filter Event.tellsObjection
      = (RuleSet.compileInto engine .empty rules).2.filter Event.tellsObjection := by
    rw [compileAll]
    dsimp only
    rw [List.filter_append]
    -- the last event only tells how many rules there are
    exact List.append_nil _
  rw [hevents, RuleSet.filter_compileInto, diagnostics_compileAll]

/-- What is told of one kind of objections is the diagnostics of that kind. -/
theorem filter_compileAll {p : Event → Bool} (rules : List Rule)
    (hp : ∀ e, p e = true → e.tellsObjection = true) :
    (compileAll rules engine).2.filter p
      = ((compileAll rules engine).1.diagnostics.filter fun d => d.isTold && p d.event).map
          Diagnostic.event := by
  have hrefine : (compileAll rules engine).2.filter p
      = ((compileAll rules engine).2.filter Event.tellsObjection).filter p := by
    rw [List.filter_filter]
    refine List.filter_congr fun e _ => ?_
    cases hpe : p e with
    | false => rfl
    | true => rw [hp e hpe, Bool.and_self]
  rw [hrefine, filter_tellsObjection_compileAll, List.filter_map, List.filter_filter]
  refine congrArg (List.map Diagnostic.event) (List.filter_congr fun d _ => ?_)
  exact Bool.and_comm _ _

theorem filter_tellsFailure_compileAll (rules : List Rule) :
    (compileAll rules engine).2.filter Event.tellsFailure
      = ((compileAll rules engine).1.failures.filter Diagnostic.isTold).map Diagnostic.event := by
  rw [filter_compileAll engine rules fun e he => by rw [Event.tellsObjection, he, Bool.true_or],
    RuleSet.failures, List.filter_filter]
  simp only [Diagnostic.tellsFailure_event]

theorem filter_tellsDisagreement_compileAll (rules : List Rule) :
    (compileAll rules engine).2.filter Event.tellsDisagreement
      = ((compileAll rules engine).1.diagnostics.filter Diagnostic.accepted).map
          Diagnostic.event := by
  rw [filter_compileAll engine rules fun e he => by rw [Event.tellsObjection, he, Bool.or_true]]
  refine congrArg (List.map Diagnostic.event) (List.filter_congr fun d _ => ?_)
  rw [Diagnostic.tellsDisagreement_event]
  cases haccepted : d.accepted with
  | false => rw [Bool.and_false]
  | true => rw [Diagnostic.isTold_of_accepted haccepted, Bool.and_self]

/-- The failures that nobody is told about are those of the rules without a pattern. -/
theorem map_ruleId_silent_failures (rules : List Rule) :
    ((compileAll rules engine).1.failures.filter fun d => !d.isTold).map Diagnostic.ruleId
      = (rules.filter fun rule => rule.usablePattern?.isNone).map Rule.id := by
  rw [RuleSet.failures, List.filter_filter, diagnostics_compileAll,
    ← map_ruleId_filter_diagnostics engine (filter_silent_compile engine)]
  refine congrArg (List.map Diagnostic.ruleId) (List.filter_congr fun d _ => ?_)
  cases haccepted : d.accepted with
  | false => rw [Bool.not_false, Bool.and_true]
  | true => rw [Diagnostic.isTold_of_accepted haccepted, Bool.not_true, Bool.false_and]

/--
**What is told about rules that do not compile.**

What is told of objections to rules says what the diagnostics say, one by one and in their order,
except for those that are about a missing pattern. In particular all diagnostics that accept a rule
are told, and of those that refuse one all but these. The diagnostics that are not told are those of
the rules without a pattern, so every failure is told exactly if no rule lacks its pattern.
-/
theorem compileAll_announces (rules : List Rule) :
    let set := (compileAll rules engine).1
    let events := (compileAll rules engine).2
    events.filter Event.tellsObjection
        = (set.diagnostics.filter Diagnostic.isTold).map Diagnostic.event
      ∧ events.filter Event.tellsDisagreement
        = (set.diagnostics.filter Diagnostic.accepted).map Diagnostic.event
      ∧ events.filter Event.tellsFailure
        = (set.failures.filter Diagnostic.isTold).map Diagnostic.event
      ∧ (set.failures.filter fun d => !d.isTold).map Diagnostic.ruleId
        = (rules.filter fun rule => rule.usablePattern?.isNone).map Rule.id
      ∧ (events.filter Event.tellsFailure = set.failures.map Diagnostic.event
        ↔ ∀ rule ∈ rules, ∃ pattern, rule.usablePattern? = some pattern) := by
  intro set events
  have hfailures := filter_tellsFailure_compileAll engine rules
  have hsilent := map_ruleId_silent_failures engine rules
  refine ⟨filter_tellsObjection_compileAll engine rules,
    filter_tellsDisagreement_compileAll engine rules,
    hfailures, hsilent, ?_⟩
  have hall : (∀ d ∈ set.failures, d.isTold = true)
      ↔ ∀ rule ∈ rules, ∃ pattern, rule.usablePattern? = some pattern := by
    have hempty : (set.failures.filter fun d => !d.isTold) = []
        ↔ (rules.filter fun rule => rule.usablePattern?.isNone) = [] := by
      rw [← List.map_eq_nil_iff, hsilent, List.map_eq_nil_iff]
    simpa [List.filter_eq_nil_iff, Option.ne_none_iff_exists'] using hempty
  rw [hfailures, ← hall]
  constructor
  · intro heq
    -- as many failures are told as there are, so none is left out
    have hlength := congrArg List.length heq
    rw [List.length_map, List.length_map] at hlength
    exact List.length_filter_eq_length_iff.mp hlength
  · intro htold
    rw [List.filter_eq_self.mpr htold]

/-- A rule without a pattern is a failure that is not told. -/
theorem compileAll_announces_silent :
    let set := (compileAll [.ofPattern "a" "a" []]).1
    let events := (compileAll [.ofPattern "a" "a" []]).2
    set.failures.map Diagnostic.ruleId = ["a"]
      ∧ events.filter Event.tellsFailure = []
      ∧ events.filter Event.tellsFailure ≠ set.failures.map Diagnostic.event := by
  refine ⟨rfl, rfl, fun h => ?_⟩
  cases congrArg List.length h

end SecretScan
