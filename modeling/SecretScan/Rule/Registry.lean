import SecretScan.Rule.Builtin
import SecretScan.Rule.Compile
import SecretScan.Rule.Load
import SecretScan.Settings.Basic

/-!
# Registry of rules

A registry collects rules by their identifiers and knows which of them are switched off. Switching
is decided for the rules that are there at that time: a rule that comes later is on, unless its
identifier was switched off before. A cache holds the compiled form of the rules that are on, from
the first use until it is told to forget.
-/

namespace SecretScan

/-- Whether a value names a rule: a list does by an item, a mapping by a key and a text by a part of
it. Other values name nothing and cannot be asked. -/
def Datum.names? (d : Datum) (ruleId : String) : Option Bool :=
  match d.untied with
  | text t => some (Text.hasInfix ruleId.toList t)
  | list items => some (items.any (isText ruleId))
  | set items => some (items.any (isText ruleId))
  | pair first second => some ([first, second].any (isText ruleId))
  | map entries => some (entries.any fun (key, _) => key.isText ruleId)
  | _ => none

/-- Whether a rule is missing among those that are on. -/
def RuleSettings.lacks? (s : RuleSettings) (ruleId : String) : Option Bool :=
  if s.enable.isGiven then (s.enable.names? ruleId).map not else some false

/-- The identifiers among several ones that settings switch off, and whether all could be asked
for. The first one that cannot be asked for ends the asking. -/
def RuleSettings.excluded (s : RuleSettings) : List String → List String × Bool
  | [] => ([], true)
  | id :: ids =>
    match s.lacks? id, s.disable.names? id with
    | none, _ => ([], false)
    | some lacks, none => (if lacks then [id] else [], false)
    | some lacks, some disabled =>
      let (more, all) := s.excluded ids
      (if lacks || disabled then id :: more else more, all)

/-- The paths that a value lists, if it is a list; what is no text is no path. -/
def Datum.paths? (d : Datum) : Option (List (Option Path)) :=
  d.parts?.map fun parts => parts.map fun part =>
    match part with
    | text t => some (.ofText t)
    | _ => none

/-- Why settings make no registry. -/
inductive BuildError where
  /-- Rules cannot be loaded. -/
  | load (e : LoadError)
  /-- A setting is of the wrong type. -/
  | wrongType
deriving DecidableEq, Repr

/-- Rules by identifier, and the identifiers that are switched off. -/
structure Registry where
  /-- The rules, in the order in which their identifiers came in. -/
  rules : Catalog Rule Rule.id
  /-- The identifiers that are switched off. -/
  disabled : List String

namespace Registry

/-- The registry without rules. -/
def empty : Registry :=
  ⟨.empty, []⟩

/-- Takes in a rule; it replaces the one that has its identifier. -/
def register (r : Registry) (rule : Rule) : Registry :=
  { r with rules := r.rules.put rule }

/-- Takes in rules one after the other. -/
def registerAll (r : Registry) (rules : List Rule) : Registry :=
  { r with rules := r.rules.putAll rules }

/-- The rule with an identifier. -/
def find? (r : Registry) (ruleId : String) : Option Rule :=
  r.rules.find? ruleId

/-- The rules that are on. -/
def enabled (r : Registry) : List Rule :=
  r.rules.entries.filter fun rule => rule.id ∉ r.disabled

/-- Switches the rules on and off, and tells whether all could be asked for. -/
def select (r : Registry) (s : RuleSettings) : Registry × Bool :=
  let (disabled, all) := s.excluded r.rules.keys
  ({ r with disabled }, all)

/-- Takes in the rules at a path and tells how many there were. If they cannot be loaded, nothing
is taken in. -/
def load (r : Registry) (fs : Files) (path : Path) (reader : DocumentReader := Yaml.readBytes) :
    List Event × Except LoadError (Nat × Registry) :=
  let (events, rules) := loadRules fs path reader
  (events, rules.map fun rules => (rules.length, r.registerAll rules))

/-- Takes in the rules at several paths, which begin in the home folder. -/
def loadAll (reader : DocumentReader) (r : Registry) (fs : Files) :
    List (Option Path) → List Event × Except BuildError Registry
  | [] => ([], .ok r)
  | none :: _ => ([], .error .wrongType)
  | some path :: paths =>
    let path := fs.home.append path
    let (events, loaded) := r.load fs path reader
    match loaded with
    | .error e => (events, .error (.load e))
    | .ok (count, r) =>
      let (more, result) := loadAll reader r fs paths
      (events ++ .customRulesLoaded (String.ofList path.toText) count :: more, result)

/-- The registry that settings ask for, with the rules at further paths. -/
def build (fs : Files) (s : RuleSettings) (further : List Path)
    (reader : DocumentReader := Yaml.readBytes) : List Event × Except BuildError Registry :=
  let base := if s.builtin.isGiven then empty.registerAll Builtin.rules else empty
  match s.paths.paths? with
  | none => ([], .error .wrongType)
  | some paths =>
    let (events, result) := loadAll reader base fs (paths ++ further.map some)
    (events, result.bind fun r =>
      match r.select s with
      | (r, true) => .ok r
      | (_, false) => .error .wrongType)

end Registry

/-- The compiled rules of a registry, once they have been asked for. -/
structure RuleCache where
  /-- The compiled rules, if they are held. -/
  held : Option RuleSet
  /-- How often rules have been compiled. -/
  builds : Nat

namespace RuleCache

/-- The cache that holds nothing. -/
def empty : RuleCache :=
  ⟨none, 0⟩

/-- Whether compiled rules are held. -/
def isBuilt (c : RuleCache) : Bool :=
  c.held.isSome

/-- The compiled rules, compiled from the registry's rules if none are held. -/
def get (c : RuleCache) (r : Registry) (engine : Engine := Regex.engine) :
    RuleSet × RuleCache × List Event :=
  match c.held with
  | some set => (set, c, [])
  | none =>
    let (set, events) := compileAll r.enabled engine
    (set, ⟨some set, c.builds + 1⟩,
      events ++ [.ruleSetBuilt set.rules.entries.length set.failures.length])

/-- Forgets the compiled rules. -/
def invalidate (c : RuleCache) : RuleCache :=
  { c with held := none }

end RuleCache

end SecretScan
