import SecretScan.Proofs.Rule.Catalog
import SecretScan.Proofs.Rule.Loading

/-!
# What a registry remembers

A registry is known from what was done to it. Its rules are the catalogue of all rules that were
ever taken in (`rules_after`), and nothing but settings switches a rule on or off, so a rule is off
exactly if it was there when settings were applied last and they switch it off
(`mem_disabled_after`). Both follow from what a single action does, and both inductions take the
actions from the end, since the last one decides. `follows_history` puts this together, and adds
what it means for the rules that come after the settings and for files that cannot be loaded.
-/

namespace SecretScan

/-- Where an element stands in a list, told from the end: it is the last one or in front of it. -/
theorem concat_eq_append_cons_iff {α : Type} {xs before later : List α} {x y : α} :
    xs ++ [x] = before ++ y :: later ↔
      (later = [] ∧ xs = before ∧ x = y)
        ∨ ∃ init, later = init ++ [x] ∧ xs = before ++ y :: init := by
  constructor
  · intro h
    rcases later.eq_nil_or_concat' with rfl | ⟨init, last, rfl⟩
    · obtain ⟨rfl, hx⟩ := List.append_inj' h rfl
      exact .inl ⟨rfl, rfl, (List.cons.inj hx).1⟩
    · rw [← List.cons_append, ← List.append_assoc] at h
      obtain ⟨hinit, hlast⟩ := List.append_inj' h rfl
      exact .inr ⟨init, by rw [(List.cons.inj hlast).1], hinit⟩
  · rintro (⟨rfl, rfl, rfl⟩ | ⟨init, rfl, rfl⟩)
    · rfl
    · exact List.append_assoc _ _ _

/-! ## Settings -/

/-- Whether a value can be asked does not depend on what it is asked for. -/
theorem Datum.names?_eq_none_congr (d : Datum) (id id' : String) :
    d.names? id = none ↔ d.names? id' = none := by
  unfold names?
  cases d.untied <;> simp

theorem Datum.names?_list {items : List Datum} {id : String} {named : Bool} :
    (Datum.list items).names? id = some named ↔ (named = true ↔ .text id.toList ∈ items) := by
  have hany : items.any (isText id) = true ↔ .text id.toList ∈ items := by
    rw [List.any_eq_true]
    constructor
    · rintro ⟨item, hitem, htext⟩
      exact isText_iff.mp htext ▸ hitem
    · exact fun h => ⟨_, h, isText_iff.mpr rfl⟩
  show some (items.any (isText id)) = some named ↔ _
  rw [Option.some.injEq, ← hany]
  cases items.any (isText id) <;> cases named <;> decide

namespace RuleSettings

variable {s : RuleSettings} {ids : List String} {id : String}

/-- The settings can be asked for every rule. Lists always can. -/
def CanBeAsked (s : RuleSettings) : Prop :=
  ∀ id, s.lacks? id ≠ none ∧ s.disable.names? id ≠ none

/-- Which of the rules `ids` settings switch off. -/
inductive SwitchesOff (s : RuleSettings) (ids : List String) (id : String) : Prop where
  /-- Those that are missing among the rules that are on, and those that are off in any case. -/
  | asked : s.CanBeAsked → id ∈ ids → s.lacks? id = some true ∨ s.disable.names? id = some true →
      SwitchesOff s ids id
  /-- Settings that cannot be asked end with the first rule, which can be missing already. -/
  | unasked : ¬ s.CanBeAsked → ids.head? = some id → s.lacks? id = some true →
      SwitchesOff s ids id

theorem lacks?_eq_none_congr (s : RuleSettings) (id id' : String) :
    s.lacks? id = none ↔ s.lacks? id' = none := by
  unfold lacks?
  split
  · rw [Option.map_eq_none_iff, Option.map_eq_none_iff]
    exact s.enable.names?_eq_none_congr id id'
  · simp

/-- Settings that cannot be asked for some rule cannot be asked for any. -/
theorem not_canBeAsked_iff (id : String) :
    ¬ s.CanBeAsked ↔ s.lacks? id = none ∨ s.disable.names? id = none := by
  unfold CanBeAsked
  constructor
  · intro h
    by_contra hid
    rw [not_or] at hid
    refine h fun id' => ⟨fun h' => hid.1 ?_, fun h' => hid.2 ?_⟩
    · exact (s.lacks?_eq_none_congr id' id).mp h'
    · exact (s.disable.names?_eq_none_congr id' id).mp h'
  · rintro (h | h) hall
    · exact (hall id).1 h
    · exact (hall id).2 h

theorem mem_excluded_of_canBeAsked (h : s.CanBeAsked) :
    id ∈ (s.excluded ids).1 ↔
      id ∈ ids ∧ (s.lacks? id = some true ∨ s.disable.names? id = some true) := by
  induction ids with
  | nil => simp [excluded]
  | cons first ids ih =>
      obtain ⟨lacks, hlacks⟩ := Option.ne_none_iff_exists'.mp (h first).1
      obtain ⟨disabled, hdisabled⟩ := Option.ne_none_iff_exists'.mp (h first).2
      have hcons : (s.excluded (first :: ids)).1
          = if lacks || disabled then first :: (s.excluded ids).1 else (s.excluded ids).1 := by
        rw [excluded, hlacks, hdisabled]
      rw [hcons, List.mem_cons]
      by_cases hid : id = first
      · subst hid
        rw [hlacks, hdisabled]
        cases lacks <;> cases disabled <;> simp [ih, hlacks, hdisabled]
      · cases lacks || disabled <;> simp [ih, hid]

theorem mem_excluded_of_not_canBeAsked (h : ¬ s.CanBeAsked) :
    id ∈ (s.excluded ids).1 ↔ ids.head? = some id ∧ s.lacks? id = some true := by
  cases ids with
  | nil => simp [excluded]
  | cons first ids =>
      rw [List.head?_cons, Option.some.injEq]
      rcases hlacks : s.lacks? first with _ | lacks
      · have hnone : (s.excluded (first :: ids)).1 = [] := by rw [excluded, hlacks]
        rw [hnone]
        refine ⟨nofun, ?_⟩
        rintro ⟨rfl, htrue⟩
        exact nomatch hlacks.symm.trans htrue
      · have hdisabled : s.disable.names? first = none := by
          rcases (not_canBeAsked_iff first).mp h with h | h
          · exact nomatch hlacks.symm.trans h
          · exact h
        have hfirst : (s.excluded (first :: ids)).1 = if lacks then [first] else [] := by
          rw [excluded, hlacks, hdisabled]
        rw [hfirst]
        constructor
        · intro hid
          cases lacks with
          | false => cases hid
          | true =>
              obtain rfl := List.mem_singleton.mp hid
              exact ⟨rfl, hlacks⟩
        · rintro ⟨rfl, htrue⟩
          rw [hlacks] at htrue
          cases htrue
          exact List.mem_singleton_self first

theorem mem_excluded : id ∈ (s.excluded ids).1 ↔ s.SwitchesOff ids id := by
  by_cases h : s.CanBeAsked
  · rw [mem_excluded_of_canBeAsked h]
    constructor
    · exact fun ⟨hid, hoff⟩ => .asked h hid hoff
    · rintro (⟨-, hid, hoff⟩ | ⟨hnot, -, -⟩)
      · exact ⟨hid, hoff⟩
      · exact absurd h hnot
  · rw [mem_excluded_of_not_canBeAsked h]
    constructor
    · exact fun ⟨hid, hoff⟩ => .unasked h hid hoff
    · rintro (⟨hasked, -, -⟩ | ⟨-, hid, hoff⟩)
      · exact absurd hasked h
      · exact ⟨hid, hoff⟩

theorem SwitchesOff.mem (h : s.SwitchesOff ids id) : id ∈ ids := by
  cases h with
  | asked _ hid _ => exact hid
  | unasked _ hid _ => exact List.mem_of_head? hid

/-- It does not matter how often a rule is named. -/
theorem switchesOff_eraseDups : s.SwitchesOff ids.eraseDups id ↔ s.SwitchesOff ids id := by
  have hhead : ids.eraseDups.head? = ids.head? := by
    cases ids with
    | nil => rfl
    | cons first ids => rw [List.eraseDups_cons, List.head?_cons, List.head?_cons]
  constructor
  · rintro (⟨hasked, hid, hoff⟩ | ⟨hnot, hid, hoff⟩)
    · exact .asked hasked (List.mem_eraseDups.mp hid) hoff
    · exact .unasked hnot (hhead ▸ hid) hoff
  · rintro (⟨hasked, hid, hoff⟩ | ⟨hnot, hid, hoff⟩)
    · exact .asked hasked (List.mem_eraseDups.mpr hid) hoff
    · exact .unasked hnot (hhead.trans hid) hoff

theorem lacks?_list {on : List Datum} (hon : s.enable = .list on) :
    s.lacks? id = some true ↔ on ≠ [] ∧ .text id.toList ∉ on := by
  unfold lacks?
  rw [hon]
  cases on with
  | nil => simp [Datum.isGiven]
  | cons first on =>
      have hgiven : (Datum.list (first :: on)).isGiven = true := rfl
      rw [if_pos hgiven, Option.map_eq_some_iff]
      constructor
      · rintro ⟨named, hnamed, hnot⟩
        refine ⟨List.cons_ne_nil first on, fun hmem => ?_⟩
        rw [(Datum.names?_list.mp hnamed).mpr hmem] at hnot
        cases hnot
      · rintro ⟨-, hmem⟩
        exact ⟨false, Datum.names?_list.mpr ⟨nofun, fun h => absurd h hmem⟩, rfl⟩

theorem canBeAsked_of_lists {on off : List Datum} (hon : s.enable = .list on)
    (hoff : s.disable = .list off) : s.CanBeAsked := by
  intro id
  refine ⟨?_, ?_⟩
  · unfold lacks?
    rw [hon]
    split <;> nofun
  · rw [hoff]
    nofun

/-- What lists switch off: what a list of rules that are on lacks, unless it is empty, and what the
list of rules that are off names. -/
theorem switchesOff_lists {on off : List Datum} (hon : s.enable = .list on)
    (hoff : s.disable = .list off) :
    s.SwitchesOff ids id ↔
      id ∈ ids ∧ ((on ≠ [] ∧ .text id.toList ∉ on) ∨ .text id.toList ∈ off) := by
  have hnamed : s.disable.names? id = some true ↔ .text id.toList ∈ off := by
    rw [hoff, Datum.names?_list]
    simp
  rw [← mem_excluded, mem_excluded_of_canBeAsked (canBeAsked_of_lists hon hoff), lacks?_list hon,
    hnamed]

end RuleSettings

/-! ## Actions -/

namespace Registry

/-- Something that is done to a registry. -/
inductive Action where
  /-- A rule is taken in. -/
  | register (rule : Rule)
  /-- Rules are taken in, one after the other. -/
  | registerAll (rules : List Rule)
  /-- The rules at a path are taken in, as the files are at that time. -/
  | load (fs : Files) (path : Path) (reader : DocumentReader)
  /-- Settings are applied. -/
  | select (s : RuleSettings)

/-- The registry after an action. -/
def act (r : Registry) : Action → Registry
  | .register rule => r.register rule
  | .registerAll rules => r.registerAll rules
  | .load fs path reader =>
    match (r.load fs path reader).2 with
    | .ok (_, loaded) => loaded
    | .error _ => r
  | .select s => (r.select s).1

/-- The registry after actions, from the one without rules. -/
def after (actions : List Action) : Registry :=
  actions.foldl act empty

/-- The rules that an action takes in. -/
def Action.rules : Action → List Rule
  | .register rule => [rule]
  | .registerAll rules => rules
  | .load fs path reader => (loadRules fs path reader).2.toOption.getD []
  | .select _ => []

/-- The rules that actions take in, in this order. -/
def registered (actions : List Action) : List Rule :=
  actions.flatMap Action.rules

/-- The identifier is off: it was there when settings were applied last, and they switch it off. -/
def IsOff (actions : List Action) (id : String) : Prop :=
  ∃ before s later, actions = before ++ .select s :: later ∧ (∀ s', .select s' ∉ later)
    ∧ s.SwitchesOff ((registered before).map Rule.id) id

variable {r : Registry} {a : Action} {actions more : List Action} {s : RuleSettings} {id : String}

theorem after_append (actions more : List Action) :
    after (actions ++ more) = more.foldl act (after actions) :=
  List.foldl_append

theorem load_eq (r : Registry) (fs : Files) (path : Path) (reader : DocumentReader) :
    (r.load fs path reader).2
      = (loadRules fs path reader).2.map fun rules => (rules.length, r.registerAll rules) :=
  rfl

theorem load_eq_error {fs : Files} {path : Path} {reader : DocumentReader} {e : LoadError} :
    (r.load fs path reader).2 = .error e ↔ RulesFail reader fs path e := by
  rw [load_eq, map_eq_error, loadRules_eq_error]

theorem act_load_of_fails {fs : Files} {path : Path} {reader : DocumentReader} {e : LoadError}
    (h : RulesFail reader fs path e) : r.act (.load fs path reader) = r := by
  have herror : (r.load fs path reader).2 = .error e := load_eq_error.mpr h
  rw [act, herror]

theorem rules_act (r : Registry) (a : Action) : (r.act a).rules = r.rules.putAll a.rules := by
  cases a with
  | register rule => rfl
  | registerAll rules => rfl
  | load fs path reader =>
      rw [act, load_eq, Action.rules]
      cases (loadRules fs path reader).2 <;> rfl
  | select s => rfl

theorem disabled_act_select (r : Registry) (s : RuleSettings) :
    (r.act (.select s)).disabled = (s.excluded r.rules.keys).1 :=
  rfl

/-- Only settings switch rules on or off. -/
theorem disabled_act (h : ∀ s, a ≠ .select s) : (r.act a).disabled = r.disabled := by
  cases a with
  | register rule => rfl
  | registerAll rules => rfl
  | load fs path reader =>
      rw [act, load_eq]
      cases (loadRules fs path reader).2 <;> rfl
  | select s => exact absurd rfl (h s)

/-! ## Runs -/

theorem rules_after (actions : List Action) :
    (after actions).rules = Catalog.empty.putAll (registered actions) := by
  induction actions using List.reverseRecOn with
  | nil => rfl
  | append_singleton actions a ih =>
      have hrules : registered (actions ++ [a]) = registered actions ++ a.rules := by
        rw [registered, List.flatMap_append, List.flatMap_singleton, registered]
      rw [after_append, List.foldl_cons, List.foldl_nil, rules_act, ih, hrules]
      exact List.foldl_append.symm

theorem keys_after (actions : List Action) :
    (after actions).rules.keys = ((registered actions).map Rule.id).eraseDups := by
  rw [rules_after, Catalog.keys_putAll]

theorem find?_after (actions : List Action) (id : String) :
    (after actions).find? id = ((registered actions).filter (·.id = id)).getLast? := by
  rw [find?, rules_after, Catalog.find?_putAll]
  exact Option.or_none

theorem isOff_concat_select :
    IsOff (actions ++ [.select s]) id ↔ s.SwitchesOff ((registered actions).map Rule.id) id := by
  constructor
  · rintro ⟨before, s', later, hactions, hlater, hoff⟩
    rcases concat_eq_append_cons_iff.mp hactions with ⟨-, rfl, hs⟩ | ⟨init, rfl, -⟩
    · cases hs
      exact hoff
    · -- the settings would not be the last ones
      exact absurd (List.mem_append_right init (List.mem_singleton_self _)) (hlater s)
  · intro hoff
    exact ⟨actions, s, [], rfl, fun _ => List.not_mem_nil, hoff⟩

/-- Without settings nothing is switched on or off. -/
theorem isOff_append (h : ∀ s, .select s ∉ more) :
    IsOff (actions ++ more) id ↔ IsOff actions id := by
  constructor
  · rintro ⟨before, s, later, hactions, hlater, hoff⟩
    have hmore : ∀ xs, more ≠ xs ++ .select s :: later := by
      rintro xs rfl
      exact h s (List.mem_append_right xs List.mem_cons_self)
    rcases List.append_eq_append_iff.mp hactions with ⟨xs, -, hxs⟩ | ⟨xs, rfl, hxs⟩
    · exact absurd hxs (hmore xs)
    · cases xs with
      | nil => exact absurd hxs.symm (hmore [])
      | cons x xs =>
          obtain ⟨rfl, rfl⟩ := List.cons.inj hxs
          exact ⟨before, s, xs, rfl, fun s' hs' => hlater s' (List.mem_append_left more hs'), hoff⟩
  · rintro ⟨before, s, later, rfl, hlater, hoff⟩
    refine ⟨before, s, later ++ more, by simp, fun s' hs' => ?_, hoff⟩
    rcases List.mem_append.mp hs' with hs' | hs'
    · exact hlater s' hs'
    · exact h s' hs'

theorem IsOff.registered (h : IsOff actions id) : id ∈ (registered actions).map Rule.id := by
  obtain ⟨before, s, later, rfl, -, hoff⟩ := h
  have hid := hoff.mem
  rw [Registry.registered, List.flatMap_append, List.map_append]
  exact List.mem_append_left _ hid

theorem mem_disabled_after (actions : List Action) (id : String) :
    id ∈ (after actions).disabled ↔ IsOff actions id := by
  induction actions using List.reverseRecOn with
  | nil =>
      refine ⟨nofun, ?_⟩
      rintro ⟨before, s, later, hactions, -⟩
      cases before <;> cases hactions
  | append_singleton actions a ih =>
      rw [after_append, List.foldl_cons, List.foldl_nil]
      -- settings decide anew, and anything else leaves the decision as it was
      by_cases ha : ∃ s, a = .select s
      · obtain ⟨s, rfl⟩ := ha
        rw [disabled_act_select, RuleSettings.mem_excluded, keys_after,
          RuleSettings.switchesOff_eraseDups, isOff_concat_select]
      · rw [not_exists] at ha
        have hmore : ∀ s, .select s ∉ [a] := fun s hs => ha s (List.mem_singleton.mp hs).symm
        rw [disabled_act ha, ih, isOff_append hmore]

theorem mem_enabled_after {rule : Rule} :
    rule ∈ (after actions).enabled ↔
      rule ∈ (after actions).rules.entries ∧ ¬ IsOff actions rule.id := by
  simp [enabled, ← mem_disabled_after]

theorem mem_entries_iff {rule : Rule} :
    rule ∈ r.rules.entries ↔ r.find? rule.id = some rule :=
  ⟨Catalog.find?_of_mem, List.mem_of_find?_eq_some⟩

/-- A rule that is there later is off exactly if its identifier was off already. -/
theorem mem_enabled_append (h : ∀ s, .select s ∉ more) {rule : Rule}
    (hrule : rule ∈ (after (actions ++ more)).rules.entries) :
    rule ∈ (after (actions ++ more)).enabled ↔
      ∀ old, (after actions).find? rule.id = some old → old ∈ (after actions).enabled := by
  rw [mem_enabled_after, isOff_append h, and_iff_right hrule]
  constructor
  · intro hon old hold
    have hid : old.id = rule.id := by simpa using List.find?_some hold
    have hmem : old ∈ (after actions).rules.entries := List.mem_of_find?_eq_some hold
    exact mem_enabled_after.mpr ⟨hmem, hid ▸ hon⟩
  · intro hold hoff
    -- what is off was there, so there is a rule that the hypothesis speaks of
    have hkey : rule.id ∈ (after actions).rules.keys := by
      rw [keys_after]
      exact List.mem_eraseDups.mpr hoff.registered
    obtain ⟨old, hmem, hid⟩ := List.mem_map.mp hkey
    have henabled := hold old (hid ▸ mem_entries_iff.mp hmem)
    exact (mem_enabled_after.mp henabled).2 (hid ▸ hoff)

/--
**A registry follows from what was done to it.**

It holds one rule for each identifier that was taken in, in the order in which these came in, and
each is the last one that was. The rules that are on are these without those that were there when
settings were applied last and that they switch off; for lists this means those that a list of rules
that are on lacks, unless it is empty, and those in the list of rules that are off. Until settings
are applied again a rule that replaces another is on or off as that was, and a new one is on. Rules
that cannot be loaded, be it for the last file of a folder, leave the registry as it was.
-/
theorem follows_history (actions : List Action) :
    let r := after actions
    r.rules.keys = ((registered actions).map Rule.id).eraseDups
      ∧ (∀ id, r.find? id = ((registered actions).filter (·.id = id)).getLast?)
      ∧ (∀ rule, rule ∈ r.rules.entries ↔ r.find? rule.id = some rule)
      ∧ r.enabled.Sublist r.rules.entries
      ∧ (∀ rule, rule ∈ r.enabled ↔ rule ∈ r.rules.entries ∧ ¬ IsOff actions rule.id)
      ∧ (∀ (s : RuleSettings) (on off : List Datum) (ids : List String) (id : String),
          s.enable = .list on → s.disable = .list off →
          (s.SwitchesOff ids id ↔
            id ∈ ids ∧ ((on ≠ [] ∧ .text id.toList ∉ on) ∨ .text id.toList ∈ off)))
      ∧ (∀ more, (∀ s, .select s ∉ more) → ∀ rule ∈ (after (actions ++ more)).rules.entries,
          (rule ∈ (after (actions ++ more)).enabled ↔
            ∀ old, r.find? rule.id = some old → old ∈ r.enabled))
      ∧ ∀ fs path reader,
          (∀ e, (r.load fs path reader).2 = .error e ↔ RulesFail reader fs path e)
            ∧ ((∃ e, RulesFail reader fs path e) → r.act (.load fs path reader) = r) := by
  intro r
  have hkeys := keys_after actions
  have hfind := find?_after actions
  refine ⟨hkeys, hfind, fun _ => mem_entries_iff, List.filter_sublist, fun _ => mem_enabled_after,
    fun s on off ids id hon hoff => RuleSettings.switchesOff_lists hon hoff,
    fun more hmore rule hrule => mem_enabled_append hmore hrule,
    fun fs path reader => ⟨fun e => ?_, ?_⟩⟩
  · exact load_eq_error
  · rintro ⟨e, h⟩
    exact act_load_of_fails h

end Registry

end SecretScan
