import Mathlib.Data.List.DropRight
import SecretScan.Proofs.Rule.History

/-!
# How old the compiled rules are

A cache may hand out rules that its registry has changed since, so what it hands out can only be
told from the past: it is what the registry held at the first request since the cache was told to
forget (`upToRequest`). Whether there was such a request decides what a single action does, and with
it whether rules are held (`held_after`) and how often they were compiled (`builds_after`).
`get_follows_requests` puts this together, for every engine.
-/

namespace SecretScan

variable {engine : Engine}

namespace RuleCache

variable {c : RuleCache} {set : RuleSet}

/-- Rules that are held are handed out, and nothing is compiled. -/
theorem get_of_held (h : c.held = some set) (r : Registry) : c.get r engine = (set, c, []) := by
  unfold get
  rw [h]

theorem get_of_empty (h : c.held = none) (r : Registry) :
    (c.get r engine).1 = (compileAll r.enabled engine).1
      ∧ (c.get r engine).2.1 = ⟨some (compileAll r.enabled engine).1, c.builds + 1⟩ := by
  unfold get
  rw [h]
  exact ⟨rfl, rfl⟩

end RuleCache

/-- Something that is done to a registry and the cache of its compiled rules. -/
inductive CacheAction where
  /-- Something is done to the registry. -/
  | change (a : Registry.Action)
  /-- The compiled rules are asked for. -/
  | get
  /-- The cache is told to forget. -/
  | invalidate

namespace CacheAction

/-- What is done to the registry. -/
def change? : CacheAction → Option Registry.Action
  | change a => some a
  | _ => none

/-- Whether the compiled rules are asked for. -/
def isGet : CacheAction → Bool
  | get => true
  | _ => false

/-- Whether the cache is told to forget. -/
def isInvalidate : CacheAction → Bool
  | invalidate => true
  | _ => false

end CacheAction

/-- A registry and the cache of its compiled rules. -/
structure CachedRegistry where
  /-- The registry. -/
  registry : Registry
  /-- The cache. -/
  cache : RuleCache

namespace CachedRegistry

/-- The compiled rules that are handed out. -/
def get (engine : Engine) (c : CachedRegistry) : RuleSet :=
  (c.cache.get c.registry engine).1

/-- The registry and the cache after an action. -/
def act (engine : Engine) (c : CachedRegistry) : CacheAction → CachedRegistry
  | .change a => { c with registry := c.registry.act a }
  | .get => { c with cache := (c.cache.get c.registry engine).2.1 }
  | .invalidate => { c with cache := c.cache.invalidate }

/-- A registry and its cache after actions, from a cache that is new. -/
def after (engine : Engine) (r : Registry) (actions : List CacheAction) : CachedRegistry :=
  actions.foldl (act engine) ⟨r, .empty⟩

/-- The registry after actions, as if there were no cache. -/
def registryAfter (r : Registry) (actions : List CacheAction) : Registry :=
  (actions.filterMap CacheAction.change?).foldl Registry.act r

/-! ## Requests -/

/-- What was done since the cache was told to forget. -/
def recent (actions : List CacheAction) : List CacheAction :=
  actions.rtakeWhile fun a => !a.isInvalidate

/-- Whether the compiled rules were asked for since the cache was told to forget. -/
def isAsked (actions : List CacheAction) : Bool :=
  (recent actions).any CacheAction.isGet

/-- What was done before the first request since the cache was told to forget; all of it if there
was none. -/
def upToRequest (actions : List CacheAction) : List CacheAction :=
  actions.rdropWhile (fun a => !a.isInvalidate)
    ++ (recent actions).takeWhile fun a => !a.isGet

/-- How many requests were the first since the cache was told to forget. -/
def firstRequests (actions : List CacheAction) : Nat :=
  (List.range actions.length).countP fun i =>
    actions[i]?.any CacheAction.isGet && !isAsked (actions.take i)

variable {r : Registry} {c : CachedRegistry} {a : CacheAction} {actions more : List CacheAction}

theorem recent_concat_invalidate : recent (actions ++ [.invalidate]) = [] :=
  List.rtakeWhile_concat_neg _ _ _ nofun

theorem recent_concat (h : a.isInvalidate = false) :
    recent (actions ++ [a]) = recent actions ++ [a] :=
  List.rtakeWhile_concat_pos _ _ _ (by rw [h]; rfl)

theorem earlier_concat (actions : List CacheAction) (h : a.isInvalidate = false) :
    (actions ++ [a]).rdropWhile (fun a => !a.isInvalidate)
      = actions.rdropWhile fun a => !a.isInvalidate :=
  List.rdropWhile_concat_pos _ _ _ (by rw [h]; rfl)

theorem isAsked_concat_invalidate : isAsked (actions ++ [.invalidate]) = false := by
  rw [isAsked, recent_concat_invalidate, List.any_nil]

theorem isAsked_concat (h : a.isInvalidate = false) :
    isAsked (actions ++ [a]) = (isAsked actions || a.isGet) := by
  rw [isAsked, recent_concat h, List.any_append, List.any_cons, List.any_nil, Bool.or_false,
    isAsked]

theorem isGet_of_not_asked (h : isAsked actions = false) :
    ∀ a ∈ recent actions, (!a.isGet) = true := by
  intro a ha
  cases hget : a.isGet with
  | false => rfl
  | true => exact absurd (List.any_eq_true.mpr ⟨a, ha, hget⟩) (Bool.eq_false_iff.mp h)

theorem isAsked_iff :
    isAsked actions = true ↔
      ∃ before later, actions = before ++ .get :: later ∧ .invalidate ∉ later := by
  induction actions using List.reverseRecOn with
  | nil =>
      refine ⟨nofun, ?_⟩
      rintro ⟨before, later, h, -⟩
      cases before <;> cases h
  | append_singleton actions a ih =>
      cases a with
      | invalidate =>
          rw [isAsked_concat_invalidate]
          refine ⟨nofun, ?_⟩
          rintro ⟨before, later, h, hlater⟩
          rcases concat_eq_append_cons_iff.mp h with ⟨-, -, ha⟩ | ⟨init, rfl, -⟩
          · cases ha
          · exact absurd (List.mem_append_right init (List.mem_singleton_self _)) hlater
      | get =>
          rw [isAsked_concat rfl]
          exact ⟨fun _ => ⟨actions, [], rfl, List.not_mem_nil⟩, fun _ => Bool.or_true _⟩
      | change a =>
          rw [isAsked_concat rfl, CacheAction.isGet.eq_def, Bool.or_false, ih]
          constructor
          · rintro ⟨before, later, rfl, hlater⟩
            refine ⟨before, later ++ [.change a], by simp, fun h => ?_⟩
            rcases List.mem_append.mp h with h | h
            · exact hlater h
            · cases List.mem_singleton.mp h
          · rintro ⟨before, later, h, hlater⟩
            rcases concat_eq_append_cons_iff.mp h with ⟨-, -, ha⟩ | ⟨init, rfl, hinit⟩
            · cases ha
            · exact ⟨before, init, hinit, fun h => hlater (List.mem_append_left _ h)⟩

/-- Without a request nothing is left out. -/
theorem upToRequest_of_not_asked (h : isAsked actions = false) :
    upToRequest actions = actions := by
  rw [upToRequest, List.takeWhile_eq_self_iff.mpr (isGet_of_not_asked h), recent,
    List.rdropWhile_append_rtakeWhile]

/-- What comes after the first request is left out. -/
theorem upToRequest_concat_of_asked (h : isAsked actions = true) (ha : a.isInvalidate = false) :
    upToRequest (actions ++ [a]) = upToRequest actions := by
  have hearlier := earlier_concat actions ha
  have hstops :
      ((recent actions).takeWhile fun a => !a.isGet).length ≠ (recent actions).length := by
    intro hlength
    obtain ⟨b, hb, hget⟩ := List.any_eq_true.mp h
    have hself := (List.takeWhile_prefix _).eq_of_length hlength
    have hnot := List.takeWhile_eq_self_iff.mp hself b hb
    rw [hget] at hnot
    cases hnot
  rw [upToRequest, recent_concat ha, hearlier, List.takeWhile_append, if_neg hstops, upToRequest]

/-- A request is itself left out, be it the first or not. -/
theorem upToRequest_concat_get (actions : List CacheAction) :
    upToRequest (actions ++ [.get]) = upToRequest actions := by
  cases h : isAsked actions with
  | true => exact upToRequest_concat_of_asked h rfl
  | false =>
      have hself := List.takeWhile_eq_self_iff.mpr (isGet_of_not_asked h)
      have hget : [CacheAction.get].takeWhile (fun a => !a.isGet) = [] := rfl
      have hearlier := earlier_concat actions (show CacheAction.get.isInvalidate = false from rfl)
      rw [upToRequest, recent_concat rfl, hearlier, List.takeWhile_append,
        if_pos (congrArg List.length hself), hget, List.append_nil, upToRequest, hself]

theorem firstRequests_concat (actions : List CacheAction) (a : CacheAction) :
    firstRequests (actions ++ [a])
      = firstRequests actions + if a.isGet && !isAsked actions then 1 else 0 := by
  -- what stands before the last action is the same in both lists
  have hbefore : ∀ i ∈ List.range actions.length,
      ((actions ++ [a])[i]?.any CacheAction.isGet && !isAsked ((actions ++ [a]).take i)) = true
        ↔ (actions[i]?.any CacheAction.isGet && !isAsked (actions.take i)) = true := by
    intro i hi
    have hlt : i < actions.length := List.mem_range.mp hi
    rw [List.getElem?_append_left hlt, List.take_append_of_le_length hlt.le]
  rw [firstRequests, List.length_append, List.length_singleton, List.range_succ, List.countP_append,
    List.countP_congr hbefore, List.countP_singleton, List.getElem?_concat_length, Option.any_some,
    List.take_left, firstRequests]

/-! ## Runs -/

theorem after_concat (r : Registry) (actions : List CacheAction) (a : CacheAction) :
    after engine r (actions ++ [a]) = (after engine r actions).act engine a := by
  rw [after, List.foldl_append, List.foldl_cons, List.foldl_nil, after]

/-- The cache does not change the registry. -/
theorem registry_after (r : Registry) (actions : List CacheAction) :
    (after engine r actions).registry = registryAfter r actions := by
  induction actions using List.reverseRecOn with
  | nil => rfl
  | append_singleton actions a ih =>
      rw [after_concat, registryAfter, List.filterMap_append, List.foldl_append]
      cases a with
      | change a => exact congrArg (Registry.act · a) ih
      | get => exact ih
      | invalidate => exact ih

/-- **What is held was compiled from the registry at the first request.** -/
theorem held_after (engine : Engine) (r : Registry) (actions : List CacheAction) :
    (after engine r actions).cache.held
      = if isAsked actions then
          some (compileAll (registryAfter r (upToRequest actions)).enabled engine).1
        else none := by
  induction actions using List.reverseRecOn with
  | nil => rfl
  | append_singleton actions a ih =>
      rw [after_concat]
      cases a with
      | change a =>
          rw [isAsked_concat rfl, CacheAction.isGet.eq_def, Bool.or_false]
          cases h : isAsked actions with
          | true =>
              rw [h] at ih
              rw [upToRequest_concat_of_asked h rfl]
              exact ih
          | false =>
              rw [h] at ih
              exact ih
      | get =>
          rw [isAsked_concat rfl, CacheAction.isGet.eq_def, Bool.or_true, if_pos rfl,
            upToRequest_concat_get]
          -- a request after another one changes nothing; the first one compiles what is on now
          cases h : isAsked actions with
          | true =>
              rw [h, if_pos rfl] at ih
              rw [act, RuleCache.get_of_held ih]
              exact ih
          | false =>
              rw [h] at ih
              rw [act, (RuleCache.get_of_empty ih _).2, registry_after, upToRequest_of_not_asked h]
      | invalidate =>
          rw [isAsked_concat_invalidate]
          rfl

theorem isBuilt_after (r : Registry) (actions : List CacheAction) :
    (after engine r actions).cache.isBuilt = isAsked actions := by
  rw [RuleCache.isBuilt, held_after]
  cases isAsked actions <;> rfl

/-- Rules are compiled once for each first request. -/
theorem builds_after (r : Registry) (actions : List CacheAction) :
    (after engine r actions).cache.builds = firstRequests actions := by
  induction actions using List.reverseRecOn with
  | nil => rfl
  | append_singleton actions a ih =>
      rw [after_concat, firstRequests_concat]
      cases a with
      | change a => exact ih
      | get =>
          have hheld := held_after engine r actions
          cases h : isAsked actions with
          | true =>
              rw [h, if_pos rfl] at hheld
              rw [act, RuleCache.get_of_held hheld]
              exact ih
          | false =>
              rw [h] at hheld
              rw [act, (RuleCache.get_of_empty hheld _).2]
              exact congrArg (· + 1) ih
      | invalidate => exact ih

theorem get_after (r : Registry) (actions : List CacheAction) :
    (after engine r actions).get engine
      = (compileAll (registryAfter r (upToRequest actions)).enabled engine).1 := by
  have hheld := held_after engine r actions
  cases h : isAsked actions with
  | true =>
      rw [h, if_pos rfl] at hheld
      rw [get, RuleCache.get_of_held hheld]
  | false =>
      rw [h] at hheld
      rw [get, (RuleCache.get_of_empty hheld _).1, registry_after, upToRequest_of_not_asked h]

/-- As long as the cache is not told to forget, nothing happens to it once rules are held. -/
theorem cache_foldl_of_held (engine : Engine) {set : RuleSet} (h : c.cache.held = some set)
    (hmore : .invalidate ∉ more) : (more.foldl (act engine) c).cache = c.cache := by
  induction more generalizing c with
  | nil => rfl
  | cons a more ih =>
      have hsame : (c.act engine a).cache = c.cache := by
        cases a with
        | change a => rfl
        | get => rw [act, RuleCache.get_of_held h]
        | invalidate => exact absurd List.mem_cons_self hmore
      rw [List.foldl_cons, ih (hsame ▸ h) fun hmem => hmore (List.mem_cons_of_mem a hmem), hsame]

theorem held_act_get (engine : Engine) (c : CachedRegistry) :
    (c.act engine .get).cache.held = some (c.get engine) := by
  cases h : c.cache.held with
  | some set =>
      rw [act, get, RuleCache.get_of_held h]
      exact h
  | none => rw [act, get, (RuleCache.get_of_empty h _).1, (RuleCache.get_of_empty h _).2]

/-- After a request the very rules that it got are handed out until the cache is told to forget. -/
theorem after_request (r : Registry) (actions : List CacheAction) (hmore : .invalidate ∉ more) :
    (after engine r (actions ++ .get :: more)).cache
        = ((after engine r actions).act engine .get).cache
      ∧ (after engine r (actions ++ .get :: more)).get engine
        = (after engine r actions).get engine := by
  have hafter : after engine r (actions ++ .get :: more)
      = more.foldl (act engine) ((after engine r actions).act engine .get) := by
    rw [after, List.foldl_append, List.foldl_cons, after]
  have hheld := held_act_get engine (after engine r actions)
  have hcache := cache_foldl_of_held engine hheld hmore
  rw [← hafter] at hcache
  refine ⟨hcache, ?_⟩
  rw [← hcache] at hheld
  rw [get, RuleCache.get_of_held hheld]

theorem isAsked_append_invalidate (actions : List CacheAction) (hmore : .get ∉ more) :
    isAsked (actions ++ .invalidate :: more) = false := by
  rw [Bool.eq_false_iff]
  intro h
  obtain ⟨before, later, heq, hlater⟩ := isAsked_iff.mp h
  rcases List.append_eq_append_iff.mp heq with ⟨xs, -, hxs⟩ | ⟨xs, -, hxs⟩
  · -- the request would come after the cache was told to forget
    cases xs with
    | nil => cases hxs
    | cons x xs =>
        obtain ⟨-, rfl⟩ := List.cons.inj hxs
        exact hmore (List.mem_append_right xs List.mem_cons_self)
  · -- it would come before that
    cases xs with
    | nil => cases hxs
    | cons x xs =>
        obtain ⟨-, rfl⟩ := List.cons.inj hxs
        exact hlater (List.mem_append_right xs List.mem_cons_self)

/--
**What a cache hands out follows from the requests.**

A request gets the compiled form of the rules that were on at the first request since the cache was
told to forget. From that request on nothing happens to the cache until it is told to forget again,
so all requests until then get the very same rules, whatever happens to the registry; the changes
show at the first request after it was told to. Rules are compiled exactly for the requests that
find nothing held, and they are held exactly if there was a request since the cache was told to
forget.
-/
theorem get_follows_requests (engine : Engine) (r : Registry) (actions : List CacheAction) :
    let c := after engine r actions
    c.registry = registryAfter r actions
      ∧ c.get engine = (compileAll (registryAfter r (upToRequest actions)).enabled engine).1
      ∧ (∀ more, .invalidate ∉ more →
          (after engine r (actions ++ .get :: more)).cache = (c.act engine .get).cache
            ∧ (after engine r (actions ++ .get :: more)).get engine = c.get engine)
      ∧ (∀ more, .get ∉ more →
          (after engine r (actions ++ .invalidate :: more)).get engine
            = (compileAll (registryAfter r (actions ++ more)).enabled engine).1)
      ∧ c.cache.builds
          = ((List.range actions.length).countP fun i =>
              actions[i]?.any CacheAction.isGet && !(after engine r (actions.take i)).cache.isBuilt)
      ∧ (c.cache.isBuilt = true ↔
          ∃ before later, actions = before ++ .get :: later ∧ .invalidate ∉ later) := by
  intro c
  have hfresh : ∀ more, .get ∉ more →
      (after engine r (actions ++ .invalidate :: more)).get engine
        = (compileAll (registryAfter r (actions ++ more)).enabled engine).1 := by
    intro more hmore
    have hasked := isAsked_append_invalidate actions hmore
    have hregistry : registryAfter r (actions ++ .invalidate :: more)
        = registryAfter r (actions ++ more) := by
      rw [registryAfter, registryAfter, List.filterMap_append, List.filterMap_append]
      rfl
    rw [get_after, upToRequest_of_not_asked hasked, hregistry]
  have hbuilds : c.cache.builds = firstRequests actions := builds_after r actions
  refine ⟨registry_after r actions, get_after r actions,
    fun more hmore => after_request r actions hmore, hfresh, ?_, ?_⟩
  · simp only [isBuilt_after]
    exact hbuilds
  · rw [isBuilt_after, isAsked_iff]

end CachedRegistry

end SecretScan
