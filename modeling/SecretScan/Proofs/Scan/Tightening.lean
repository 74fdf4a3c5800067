import SecretScan.Proofs.Decimal.Order
import SecretScan.Proofs.Scan.Account

/-!
# Stricter settings

Stricter settings only remove findings. This is not plain, because of the duplicates: if the first
finding of a secret were removed and a later one were not, the later one would be reported in its
place. But whether a match passes the gates of its rule, and which score it has, depends on its rule
and its text only; and whether it looks benign depends on its place, but not on the settings. So of
the findings that are put forward with one key, stricter settings remove all or none.

The strict pass of a rule finds what the lenient one finds and what passes the strict gates
(`Sweeps.tightens`), and the strict batch puts forward what the lenient one does and what the strict
settings report (`forwardOf_tightens`), up to the marks of ignored matches. Findings selected by
rule and text are divided as they are among the others, so the strict findings are selected from the
lenient ones (`findings_tightens`).
-/

namespace SecretScan

open Decimal

/-- The settings `s'` are at least as strict as `s` and measure entropy alike. How long a unit may
take and whether the batch is told to stop is left open. -/
structure BatchSettings.Tightens (s s' : BatchSettings) : Prop where
  /-- Entropy is measured alike. -/
  measure : s'.options.measure = s.options.measure
  /-- A threshold of the lenient settings is not above that of the strict ones. -/
  minEntropy : ∀ least, s.options.minEntropy = some least →
    ∃ least', s'.options.minEntropy = some least' ∧ least ≤ least'
  /-- If the lenient settings check requirements, the strict ones do. -/
  checkRequirements : s.options.checkRequirements = true → s'.options.checkRequirements = true
  /-- If the strict settings keep ignored matches, the lenient ones do. -/
  keepIgnored : s'.options.keepIgnored = true → s.options.keepIgnored = true
  /-- The least score is not lowered. -/
  minScore : s.minScore ≤ s'.minScore

variable {s s' : BatchSettings}

/-! ## The gates -/

/-- An entropy is below the larger of two thresholds if it is below the first one, or if it is below
the second one and that is the larger one. -/
theorem belowThreshold_larger_iff {e : Float} {least bound : Option Float} :
    belowThreshold (some e) (largerThreshold least bound) = true ↔
      (∃ a, least = some a ∧ e < a)
        ∨ ∃ b, bound = some b ∧ e < b ∧ ∀ a, least = some a → a < b := by
  cases least with
  | none =>
      cases bound with
      | none => simp [belowThreshold, largerThreshold]
      | some b => simp [belowThreshold, largerThreshold]
  | some a =>
      cases bound with
      | none => simp [belowThreshold, largerThreshold]
      | some b =>
          -- an order is needed only if the second threshold takes the place of the first one
          simp only [belowThreshold, largerThreshold, decide_eq_true_eq, Option.some.injEq,
            exists_eq_left', forall_eq']
          split
          · next hab => exact ⟨fun h => .inr ⟨h, hab⟩, fun h => h.elim (float_lt_trans · hab) (·.1)⟩
          · next hab => exact ⟨.inl, fun h => h.elim id fun h => absurd h.2 hab⟩

/-- What is below a threshold is below the stricter one. -/
theorem BatchSettings.Tightens.below (h : s.Tightens s') {entropy least : Option Float}
    (hbelow : belowThreshold entropy (largerThreshold least s.options.minEntropy) = true) :
    belowThreshold entropy (largerThreshold least s'.options.minEntropy) = true := by
  cases entropy with
  | none => cases hbelow
  | some e =>
      rw [belowThreshold_larger_iff] at hbelow ⊢
      refine hbelow.imp_right ?_
      rintro ⟨b, hb, heb, hlarger⟩
      obtain ⟨b', hb', hle⟩ := h.minEntropy b hb
      exact ⟨b', hb', float_lt_of_lt_of_le heb hle,
        fun a ha => float_lt_of_lt_of_le (hlarger a ha) hle⟩

/-- What the lenient settings reject the strict ones reject. -/
theorem BatchSettings.Tightens.reject (h : s.Tightens s') {requirements : Option Requirements}
    {t : Text} (hreject : requirementGate s.options requirements t = .reject) :
    requirementGate s'.options requirements t = .reject := by
  unfold requirementGate at hreject ⊢
  cases hcheck : s.options.checkRequirements with
  | false => simp [hcheck] at hreject
  | true =>
      cases requirements with
      | none => simp at hreject
      | some q =>
          simp only [hcheck, h.checkRequirements hcheck] at hreject ⊢
          cases hv : q.check t with
          | passed => simp [hv] at hreject
          | short kind least found => rfl
          | ignored term =>
              have hdrop : ¬ s.options.keepIgnored = true := by
                intro hkeep
                simp [hv, hkeep] at hreject
              exact if_neg fun hkeep => hdrop (h.keepIgnored hkeep)

theorem BatchSettings.Tightens.passes (h : s.Tightens s') {r : CompiledRule} {t : Text}
    {entropy : Option Float} (hpasses : r.passes s'.options t entropy = true) :
    r.passes s.options t entropy = true := by
  unfold CompiledRule.passes at hpasses ⊢
  simp only [Bool.and_eq_true, Bool.not_eq_true', decide_eq_true_eq] at hpasses ⊢
  obtain ⟨hbelow, hgate⟩ := hpasses
  refine ⟨?_, fun hreject => hgate (h.reject hreject)⟩
  rw [← Bool.not_eq_true] at hbelow ⊢
  exact fun hb => hbelow (h.below hb)

theorem BatchSettings.Tightens.measured (h : s.Tightens s') :
    s'.options.measured = s.options.measured := by
  funext t
  rw [Options.measured, Options.measured, h.measure]

/-! ## Passes and units -/

/-- The match without the mark of an ignored one. -/
def Match.unmarked (m : Match) : Match :=
  { m with ignored := false }

/-- The strict settings admit what the lenient ones admit and what passes the strict gates. -/
theorem BatchSettings.Tightens.admitted (h : s.Tightens s') {r : CompiledRule} {t : Text}
    {offset : Nat} {admitted : Option Match} (hresult : r.admit s.options t offset = .ok admitted) :
    ∃ admitted', r.admit s'.options t offset = .ok admitted'
      ∧ admitted'.toList.map Match.unmarked
        = (admitted.toList.map Match.unmarked).filter
            fun m => r.passes s'.options m.text m.entropy := by
  rw [CompiledRule.admit_eq] at hresult ⊢
  rw [h.measured]
  cases hm : s.options.measured t with
  | error f => rw [hm] at hresult; cases hresult
  | ok entropy =>
      rw [hm] at hresult
      obtain rfl := Except.ok.inj hresult
      refine ⟨_, rfl, ?_⟩
      beta_reduce
      by_cases hpasses : r.passes s'.options t entropy = true
      · rw [if_pos hpasses, if_pos (h.passes hpasses)]
        simp [Match.unmarked, CompiledRule.matchOf, hpasses]
      · rw [if_neg hpasses]
        split
        · simp [Match.unmarked, CompiledRule.matchOf, hpasses]
        · rfl

/-- **A strict pass finds what the lenient one finds and what passes the strict gates**, and it ends
alike. -/
theorem Sweeps.tightens (h : s.Tightens s') {r : CompiledRule} {content : Text} {pos : Nat}
    {p : Pass} (hp : Sweeps r s.options content pos p) :
    ∃ p', Sweeps r s'.options content pos p' ∧ p'.ending = p.ending
      ∧ p'.found.map Match.unmarked
        = (p.found.map Match.unmarked).filter fun m => r.passes s'.options m.text m.entropy := by
  induction hp with
  | beyond hout => exact ⟨_, .beyond hout, rfl, rfl⟩
  | nothing hin hreply => exact ⟨_, .nothing hin hreply, rfl, rfl⟩
  | cancel hin hreply => exact ⟨_, .cancel hin hreply, rfl, rfl⟩
  | fault hin hreply => exact ⟨_, .fault hin hreply, rfl, rfl⟩
  | empty hin hreply _ ih =>
      obtain ⟨p', hp', hending, hfound⟩ := ih
      exact ⟨p', .empty hin hreply hp', hending, hfound⟩
  | failed hin hreply hne hfault =>
      -- a text that cannot be measured fails under all settings
      rw [CompiledRule.admit_eq] at hfault
      refine ⟨_, .failed hin hreply hne ?_, rfl, rfl⟩
      rw [CompiledRule.admit_eq, h.measured]
      cases hm : s.options.measured _ with
      | error f => rw [hm] at hfault; cases hfault; rfl
      | ok entropy => rw [hm] at hfault; cases hfault
  | found hin hreply hne hresult _ ih =>
      obtain ⟨p', hp', hending, hfound⟩ := ih
      obtain ⟨admitted', hresult', hadmitted⟩ := h.admitted hresult
      refine ⟨_, .found hin hreply hne hresult' hp', hending, ?_⟩
      rw [List.map_append, List.map_append, List.filter_append, hadmitted, hfound]

/-- A strict unit that does not run out of time finds what passes the strict gates. -/
theorem unitOf_tightens (h : s.Tightens s') {r : CompiledRule} {content : Text}
    (htime : (unitOf s.options content r).failure ≠ some .timeout)
    (htime' : (unitOf s'.options content r).failure ≠ some .timeout) :
    (unitOf s'.options content r).found.map Match.unmarked
      = ((unitOf s.options content r).found.map Match.unmarked).filter
          fun m => r.passes s'.options m.text m.entropy := by
  unfold unitOf CompiledRule.apply at *
  by_cases hempty : content.isEmpty = true
  · rw [if_pos hempty, if_pos hempty]
    rfl
  · rw [if_neg hempty] at htime htime' ⊢
    rw [if_neg hempty]
    have hleft : ¬ s.options.timeout ≤ 0 := fun hout => htime (by rw [if_pos hout])
    have hleft' : ¬ s'.options.timeout ≤ 0 := fun hout => htime' (by rw [if_pos hout])
    rw [if_neg hleft, if_neg hleft']
    obtain ⟨p', hp', hending, hfound⟩ := (sweeps_passFrom r s.options content 0).tightens h
    rw [passFrom_of_sweeps hp']
    unfold Pass.result
    rw [hending]
    cases (r.passFrom s.options content 0).ending with
    | exhausted => exact hfound
    | cancelled => exact hfound
    | failed f => rfl

/-! ## What is put forward -/

/-- The finding without the mark of an ignored match. -/
def Finding.unmarked (f : Finding) : Finding :=
  { f with found := f.found.unmarked }

/-- Whether a rule reports a text under some settings, as far as its text decides it: the text
passes both gates, and its score is high enough. -/
def CompiledRule.reports (r : CompiledRule) (settings : BatchSettings) (t : Text) : Bool :=
  match settings.options.measured t with
  | .ok entropy => r.passes settings.options t entropy
      && settings.minScore ≤ (scoreOf r.rule.confidence entropy).val
  | .error _ => false

/-- What is objected to a match depends on four fields of it. -/
theorem Match.objection?_congr {m m' : Match} (htext : m.text = m'.text)
    (hoffset : m.offset = m'.offset) (hconfidence : m.confidence = m'.confidence)
    (hentropy : m.entropy = m'.entropy) {content : Text} {minScore : Int} :
    m.objection? content minScore = m'.objection? content minScore := by
  rw [objection?, objection?, htext, hoffset, hconfidence, hentropy]

section

variable (m : Match) (content location : Text) (minScore : Int)

@[simp] theorem Match.text_unmarked : m.unmarked.text = m.text := rfl

@[simp] theorem Match.entropy_unmarked : m.unmarked.entropy = m.entropy := rfl

theorem Match.objection?_unmarked :
    m.unmarked.objection? content minScore = m.objection? content minScore := by
  rw [objection?_congr (m.text_unmarked) rfl rfl rfl]

@[simp] theorem Match.unmarked_finding :
    (m.finding content location).unmarked = m.unmarked.finding content location := rfl

@[simp] theorem Match.found_finding : (m.finding content location).found = m := rfl

end

/-- An admitted match is reported under the strict settings if it passes the strict gates and
nothing is objected to it there; and then nothing is objected to it under the lenient settings
either. -/
theorem Admitted.reports_iff (h : s.Tightens s') {r : CompiledRule} {content : Text} {m : Match}
    (hm : Admitted r s.options content m) :
    r.passes s'.options m.text m.entropy = true ∧ m.objection? content s'.minScore = none
      ↔ m.objection? content s.minScore = none ∧ r.reports s' m.text = true := by
  have hscore := h.minScore
  rw [CompiledRule.reports, h.measured, hm.measured, ← hm.confidence]
  simp only [Match.objection?_eq_none_iff, Bool.and_eq_true, decide_eq_true_eq]
  constructor
  · rintro ⟨hpasses, hbenign, hhigh⟩
    exact ⟨⟨hbenign, hscore.trans hhigh⟩, hpasses, hhigh⟩
  · rintro ⟨⟨hbenign, -⟩, hpasses, hhigh⟩
    exact ⟨hpasses, hbenign, hhigh⟩

/-- Under the strict settings, the candidates among the matches of a rule are those candidates whose
texts the rule reports. -/
theorem triage_tightens (h : s.Tightens s') {r : CompiledRule} {content location : Text}
    {ms ms' : List Match} (hadmitted : ∀ m ∈ ms, Admitted r s.options content m)
    (hms : ms'.map Match.unmarked
      = (ms.map Match.unmarked).filter fun m => r.passes s'.options m.text m.entropy) :
    (triage content location s'.minScore ms').candidates.map Finding.unmarked
      = ((triage content location s.minScore ms).candidates.map Finding.unmarked).filter
          fun f => r.reports s' f.found.text := by
  -- the mark decides nothing
  have hbare (minScore : Int) (ms : List Match) :
      (triage content location minScore ms).candidates.map Finding.unmarked
        = ((ms.map Match.unmarked).filter fun m => (m.objection? content minScore).isNone).map
            fun m => m.finding content location := by
    rw [triage_candidates, List.filter_map, List.map_map, List.map_map]
    simp only [Function.comp_def, Match.objection?_unmarked, Match.unmarked_finding]
  rw [hbare, hbare, hms, List.filter_filter]
  conv_rhs => rw [List.filter_map, List.filter_filter]
  refine congrArg (List.map _) (List.filter_congr fun m hm => ?_)
  obtain ⟨m, hfound, rfl⟩ := List.mem_map.mp hm
  rw [Bool.eq_iff_iff]
  simp only [Function.comp_apply, Bool.and_eq_true, Option.isNone_iff_eq_none,
    Match.objection?_unmarked, Match.text_unmarked, Match.entropy_unmarked, Match.found_finding]
  rw [and_comm, (hadmitted m hfound).reports_iff h, and_comm]

/-! ## Rule sets -/

/-- Whether the rule with an identifier reports a text under some settings. -/
def RuleSet.reports (set : RuleSet) (settings : BatchSettings) (ruleId : String) (t : Text) : Bool :=
  (set.rules.find? ruleId).any fun r => r.reports settings t

/-- The candidates of an item come unit by unit. -/
theorem candidatesOf_eq_flatMap (minScore : Int) (item : Item) (units : List UnitResult) :
    candidatesOf minScore item units = units.flatMap fun u =>
      (triage item.content item.location minScore u.found).candidates := by
  simp only [candidatesOf, triage_candidates, List.filter_flatMap, List.map_flatMap]

/-- No unit of an item runs out of time. -/
def InTime (options : Options) (rules : List CompiledRule) (content : Text) : Prop :=
  ∀ r ∈ rules, (unitOf options content r).failure ≠ some .timeout

/-- Under the strict settings, an item puts forward what it puts forward otherwise and what the
strict settings report. -/
theorem forwardOf_tightens (h : s.Tightens s') (set : RuleSet) (item : Item)
    (htime : Location.Valid item.location → InTime s.options set.rules.entries item.content)
    (htime' : Location.Valid item.location → InTime s'.options set.rules.entries item.content) :
    (forwardOf s' set.rules.entries item).map Finding.unmarked
      = ((forwardOf s set.rules.entries item).map Finding.unmarked).filter
          fun f => set.reports s' f.found.ruleId f.found.text := by
  unfold forwardOf putForward
  split
  · next hvalid =>
    rw [candidatesOf_eq_flatMap, candidatesOf_eq_flatMap, allUnits, allUnits, List.flatMap_map,
      List.flatMap_map, List.map_flatMap, List.map_flatMap, List.filter_flatMap]
    refine List.flatMap_congr fun r hr => ?_
    -- rules have distinct identifiers, so that of a finding leads back to `r`
    rw [triage_tightens h (fun m hm => admitted_of_mem_unitOf m hm)
      (unitOf_tightens h (htime hvalid r hr) (htime' hvalid r hr))]
    refine List.filter_congr fun f hf => ?_
    obtain ⟨f, hcandidate, rfl⟩ := List.mem_map.mp hf
    have hid : f.found.ruleId = r.id := by
      rw [triage_candidates] at hcandidate
      obtain ⟨m, hm, rfl⟩ := List.mem_map.mp hcandidate
      exact unitOf_found _ _ r m (List.mem_of_mem_filter hm)
    have hfind : set.rules.find? f.unmarked.found.ruleId = some r := by
      change set.rules.find? f.found.ruleId = some r
      rw [hid]
      exact Catalog.find?_of_mem hr
    rw [RuleSet.reports, hfind]
    rfl
  · rfl

/-! ## Batches that run to their end -/

/-- The batch has a result, it is not marked as stopped, and no unit ran out of time. -/
def RunsThrough (settings : BatchSettings) (rules : List CompiledRule) (items : List Item) : Prop :=
  ∃ r, (scanBatch settings rules items).1 = .ok r ∧ r.cancelled = false ∧ r.timeouts = []

instance (settings : BatchSettings) (rules : List CompiledRule) (items : List Item) :
    Decidable (RunsThrough settings rules items) :=
  match h : (scanBatch settings rules items).1 with
  | .ok r =>
    if hr : r.cancelled = false ∧ r.timeouts.isEmpty = true then
      isTrue ⟨r, h, hr.1, List.isEmpty_iff.mp hr.2⟩
    else isFalse (by
      rintro ⟨r', h', hc, ht⟩
      rw [h] at h'
      cases h'
      exact hr ⟨hc, List.isEmpty_iff.mpr ht⟩)
  | .error _ => isFalse (by
      rintro ⟨r', h', -⟩
      rw [h] at h'
      cases h')

section

variable {settings : BatchSettings} {rules : List CompiledRule} {items : List Item}

theorem RunsThrough.exists_account (h : RunsThrough settings rules items) :
    ∃ r, (scanBatch settings rules items).1 = .ok r
      ∧ Account settings (batchRuns settings rules items) r
      ∧ r.cancelled = false ∧ r.timeouts = [] := by
  obtain ⟨r, hr, hquiet, htime⟩ := h
  obtain ⟨r', hr', account⟩ := SecretScan.exists_account settings rules items
  obtain rfl := Except.ok.inj (hr.symm.trans hr')
  exact ⟨r, hr, account, hquiet, htime⟩

/-- No rule runs out of time on an item with a valid location. -/
theorem RunsThrough.inTime (h : RunsThrough settings rules items) {item : Item}
    (hitem : item ∈ items) (hvalid : Location.Valid item.location) :
    InTime settings.options rules item.content := by
  obtain ⟨r, -, account, hquiet, htime⟩ := h.exists_account
  rw [← map_fst_batchRuns settings rules items] at hitem
  obtain ⟨x, hx, rfl⟩ := List.mem_map.mp hitem
  have hkept : isLost settings.minScore x.1 x.2.units = false := isLost_of_valid hvalid _
  intro rule hrule
  refine account.not_timeout htime hx hkept _ ?_
  rw [account.units_of_not_cancelled hquiet hx hkept]
  exact List.mem_map_of_mem hrule

/-- The findings are the first ones of each key among what the items put forward with all units. -/
theorem RunsThrough.findings (h : RunsThrough settings rules items) :
    ∃ r d, (scanBatch settings rules items).1 = .ok r
      ∧ Divides [] (items.flatMap (forwardOf settings rules)) d
      ∧ r.findings = d.kept := by
  obtain ⟨r, hr, account, hquiet, -⟩ := h.exists_account
  obtain ⟨d, hd, hfindings⟩ := account.findings
  refine ⟨r, d, hr, ?_, hfindings⟩
  have hforward : ((batchRuns settings rules items).flatMap fun x =>
        putForward settings.minScore x.1 x.2.units)
      = items.flatMap (forwardOf settings rules) := by
    conv_rhs => rw [← map_fst_batchRuns settings rules items, List.flatMap_map]
    refine List.flatMap_congr fun x hx => ?_
    by_cases hvalid : Location.Valid x.1.location
    · rw [account.units_of_not_cancelled hquiet hx (isLost_of_valid hvalid _), forwardOf]
    -- an item that may be cut short and lost puts nothing forward anyway
    · rw [forwardOf, putForward, putForward, if_neg hvalid, if_neg hvalid]
  rw [← hforward]
  exact hd

end

/-! ## Stricter settings -/

/-- What is compared of a finding: the rule, the location, the offset and the text. -/
def Finding.sighting (f : Finding) : String × Text × Nat × Text :=
  (f.found.ruleId, f.location, f.found.offset, f.found.text)

/-- The findings under the strict settings are those that the strict settings report, up to the
marks of ignored matches. -/
theorem findings_tightens (h : s.Tightens s') {set : RuleSet} {items : List Item}
    (hs : RunsThrough s set.rules.entries items) (hs' : RunsThrough s' set.rules.entries items) :
    ∃ r r', (scanBatch s set.rules.entries items).1 = .ok r
      ∧ (scanBatch s' set.rules.entries items).1 = .ok r'
      ∧ r'.findings.map Finding.unmarked = (r.findings.map Finding.unmarked).filter
          fun f => set.reports s' f.found.ruleId f.found.text := by
  obtain ⟨r, d, hr, hd, hfindings⟩ := hs.findings
  obtain ⟨r', d', hr', hd', hfindings'⟩ := hs'.findings
  refine ⟨r, r', hr, hr', ?_⟩
  have hforward : (items.flatMap (forwardOf s' set.rules.entries)).map Finding.unmarked
      = ((items.flatMap (forwardOf s set.rules.entries)).map Finding.unmarked).filter
          fun f => set.reports s' f.found.ruleId f.found.text := by
    rw [List.map_flatMap, List.map_flatMap, List.filter_flatMap]
    exact List.flatMap_congr fun item hitem =>
      forwardOf_tightens h set item (hs.inTime hitem) (hs'.inTime hitem)
  -- the mark is no part of a key
  have hkey (f : Finding) : f.unmarked.key = f.key := rfl
  have hstrict := hd'.map hkey
  rw [hforward] at hstrict
  have hlenient := divides_filter (set.reports s') (hd.map hkey)
  rw [hfindings, hfindings']
  exact congrArg Division.kept (hstrict.unique hlenient)

/--
**Stricter settings only remove findings.**

Let a batch run to its end without a time-out under two settings, the second ones at least as strict
as the first ones. What is found under the second ones is found under the first ones, at the same
places and in the same order.
-/
theorem scanBatch_tightens (s s' : BatchSettings) (h : s.Tightens s') (set : RuleSet)
    (items : List Item) (hs : RunsThrough s set.rules.entries items)
    (hs' : RunsThrough s' set.rules.entries items) :
    ∃ r r', (scanBatch s set.rules.entries items).1 = .ok r
      ∧ (scanBatch s' set.rules.entries items).1 = .ok r'
      ∧ (r'.findings.map Finding.sighting).Sublist (r.findings.map Finding.sighting) := by
  obtain ⟨r, r', hr, hr', hfindings⟩ := findings_tightens h hs hs'
  refine ⟨r, r', hr, hr', ?_⟩
  have hsighting (fs : List Finding) :
      fs.map Finding.sighting = (fs.map Finding.unmarked).map Finding.sighting := by
    rw [List.map_map]
    rfl
  rw [hsighting r'.findings, hsighting r.findings, hfindings]
  exact List.filter_sublist.map _

/-- Settings that reject little. Entropy is measured by the length of the text. -/
def lenientSettings : BatchSettings where
  options :=
    { measure := some fun t => .ok (if t.length < 3 then 2.0 else 4.0)
      checkRequirements := true
      minEntropy := some 1.0
      timeout := 1.0
      keepIgnored := true }
  minScore := 40
  signal := .silent

/-- Settings that ask for a longer text, drop examples and report higher scores only. -/
def strictSettings : BatchSettings :=
  { lenientSettings with
    options := { lenientSettings.options with minEntropy := some 3.0, keepIgnored := false }
    minScore := 60 }

/-- The short key and the example are removed wherever they stand, and the key that stands in both
items is reported for the first one still. -/
theorem scanBatch_tightens_keys :
    let key : Rule := { Rule.ofPattern "key" "Key" "k[0-9]+".toList with
      requirements := some { Requirements.free with ignoreTerms := ["k000".toList] } }
    let set := (compileAll [key]).1
    let items : List Item :=
      [⟨"k1 k12 k0001".toList, "a.py?x".toList⟩, ⟨"k1 k12 k345".toList, "a.py".toList⟩]
    lenientSettings.Tightens strictSettings
      ∧ RunsThrough lenientSettings set.rules.entries items
      ∧ RunsThrough strictSettings set.rules.entries items
      ∧ ∃ r r', (scanBatch lenientSettings set.rules.entries items).1 = .ok r
        ∧ (scanBatch strictSettings set.rules.entries items).1 = .ok r'
        ∧ (r'.findings.map Finding.sighting).Sublist (r.findings.map Finding.sighting) := by
  intro key set items
  have htightens : lenientSettings.Tightens strictSettings :=
    { measure := rfl
      minEntropy := by
        rintro least ⟨⟩
        exact ⟨3.0, rfl, by decide +kernel⟩
      checkRequirements := fun _ => rfl
      keepIgnored := fun _ => rfl
      minScore := by decide }
  have hlenient : RunsThrough lenientSettings set.rules.entries items := by decide +kernel
  have hstrict : RunsThrough strictSettings set.rules.entries items := by decide +kernel
  exact ⟨htightens, hlenient, hstrict,
    scanBatch_tightens lenientSettings strictSettings htightens set items hlenient hstrict⟩

end SecretScan
