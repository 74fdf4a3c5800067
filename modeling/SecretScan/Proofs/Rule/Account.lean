import SecretScan.Proofs.Datum.Spelling
import SecretScan.Proofs.Rule.Compilation
import SecretScan.Proofs.Rule.Decoding

/-!
# The account of a rule document

Every entry of a rule document comes to one of two ends. It yields a rule, and this rule has what
compiling needs (`Rule.WellFormed`), or it is left out, and this is told once. Which one it is does
not depend on the other entries, so the rules that a document yields and the entries that are told
to be left out add up to its entries (`decodeRules_account`).

The facts are known field by field: an identifier and a pattern are only taken from values that are
given, which have a spelling, a label that means nothing counts as low, and requirements that ask
for nothing are dropped. What comes later in an entry changes none of them.
-/

namespace SecretScan

/-- The requirements set at least one field. -/
def Requirements.SetsField (r : Requirements) : Prop :=
  r.minDigits ≠ none ∨ r.minUppercase ≠ none ∨ r.minLowercase ≠ none ∨ r.minSpecial ≠ none
    ∨ r.specialChars ≠ none ∨ r.ignoreTerms ≠ []

/-- A rule as decoding should yield it. -/
structure Rule.WellFormed (rule : Rule) : Prop where
  /-- It has an identifier. -/
  id_ne : rule.id ≠ ""
  /-- It has a pattern. -/
  pattern : ∃ p, rule.pattern = some p ∧ p ≠ []
  /-- Its confidence is one of the three that are known. -/
  confidence : rule.confidence.label ∈ ["low", "medium", "high"]
  /-- Its requirements ask for something, if it has any. -/
  requirements : ∀ r, rule.requirements = some r → r.SetsField

/-- Whether an event tells that an entry is left out. -/
def Event.tellsSkip (e : Event) : Bool :=
  e.name = "rule_entry_skipped"

/-- The rule that an entry yields by itself. -/
def ruleOf? (entry : Datum) : Option Rule :=
  match (decodeEntry entry).outcome with
  | .ok rule => rule
  | .error _ => none

variable {α : Type} {value entry data : Datum} {ruleId : String} {rule rule' : Rule}

/-! ## Fields -/

theorem toText_eq_ok {t : Text} (h : value.toText = .ok t) : t = value.spell := by
  unfold Datum.toText Datum.spell? at h
  split at h
  · exact (Except.ok.inj h).symm
  · cases h

/-- The spelling of what is given is not empty. -/
theorem toText_ne_nil {t : Text} (hgiven : value.isGiven = true) (h : value.toText = .ok t) :
    t ≠ [] :=
  toText_eq_ok h ▸ Datum.spell_ne_nil hgiven

/-- A value that may be missing is read as none only if it is. -/
theorem optional_eq_none_iff {read : Datum → Except Misfit α} {o : Option α}
    (h : optional read value = .ok o) : o = none ↔ value = .null := by
  unfold optional at h
  split at h
  · exact ⟨fun _ => rfl, fun _ => (Except.ok.inj h).symm⟩
  · next hvalue =>
      refine ⟨fun ho => ?_, fun hnull => absurd hnull hvalue⟩
      cases hread : read value <;> rw [hread, ho] at h <;> cases h

theorem mapM_eq_nil_iff {f : Datum → Except Misfit α} {ds : List Datum} {as : List α}
    (h : ds.mapM f = .ok as) : as = [] ↔ ds = [] := by
  cases ds with
  | nil =>
      cases h
      exact ⟨fun _ => rfl, fun _ => rfl⟩
  | cons d ds =>
      rw [List.mapM_cons] at h
      obtain ⟨a, -, h⟩ := bind_eq_ok.mp h
      obtain ⟨as', -, h⟩ := bind_eq_ok.mp h
      cases h
      exact ⟨nofun, nofun⟩

/-- A value has no parts only if it is not given. -/
theorem spelledParts_eq_nil_iff {ts : List Text} (h : spelledParts value = .ok ts) :
    ts = [] ↔ value.isGiven = false := by
  unfold spelledParts at h
  split at h
  · next hgiven =>
      refine ⟨fun hnil => ?_, fun hnot => absurd hgiven (by rw [hnot]; decide)⟩
      subst hnil
      split at h
      · cases h
      · split at h
        · next parts hparts =>
            rw [(mapM_eq_nil_iff h).mp rfl] at hparts
            exact absurd hparts (Datum.parts?_ne_nil hgiven)
        · cases h
  · next hgiven => exact ⟨fun _ => Bool.eq_false_iff.mpr hgiven, fun _ => (Except.ok.inj h).symm⟩

/-- There are no terms only if the value is neither given nor a text. -/
theorem ignoredTerms_eq_nil_iff {ts : List Text} (h : ignoredTerms value = .ok ts) :
    ts = [] ↔ (∀ t, value ≠ .text t) ∧ value.isGiven = false := by
  unfold ignoredTerms at h
  split at h
  · next t =>
      cases h
      exact ⟨nofun, fun hnone => absurd rfl (hnone.1 t)⟩
  · next hnotText => rw [spelledParts_eq_nil_iff h, and_iff_right hnotText]

/-! ## Requirements -/

theorem Requirements.eq_free_iff {r : Requirements} : r = .free ↔
    r.minDigits = none ∧ r.minUppercase = none ∧ r.minLowercase = none ∧ r.minSpecial = none
      ∧ r.specialChars = none ∧ r.ignoreTerms = [] := by
  obtain ⟨digits, uppercase, lowercase, special, chars, terms⟩ := r
  rw [free, Requirements.mk.injEq]

theorem Requirements.setsField_iff {r : Requirements} : r.SetsField ↔ r ≠ .free := by
  rw [ne_eq, eq_free_iff, Requirements.SetsField]
  simp only [not_and_or]

/-- A mapping of requirements sets one of them. A text is a term even if it is empty. -/
def SetsField (data : Datum) : Prop :=
  (∃ name ∈ ["min_digits", "min_uppercase", "min_lowercase", "min_special_chars", "special_chars"],
    data.get name ≠ .null)
  ∨ (∃ t, data.get "ignore_if_contains" = .text t)
  ∨ (data.get "ignore_if_contains").isGiven = true

/-- An entry sets a requirement. -/
def SetsRequirements (entry : Datum) : Prop :=
  (entry.get "pattern_requirements").isMap = true ∧ SetsField (entry.get "pattern_requirements")

/-- The requirements in a mapping are read field by field. -/
theorem decodeRequirements_eq_ok (hmap : data.isMap = true) {o : Option Requirements}
    (h : decodeRequirements data = .ok o) :
    ∃ r : Requirements, optional Datum.toInt (data.get "min_digits") = .ok r.minDigits
      ∧ optional Datum.toInt (data.get "min_uppercase") = .ok r.minUppercase
      ∧ optional Datum.toInt (data.get "min_lowercase") = .ok r.minLowercase
      ∧ optional Datum.toInt (data.get "min_special_chars") = .ok r.minSpecial
      ∧ optional Datum.toText (data.get "special_chars") = .ok r.specialChars
      ∧ ignoredTerms (data.get "ignore_if_contains") = .ok r.ignoreTerms
      ∧ o = if r = .free then none else some r := by
  rw [decodeRequirements_of_map hmap] at h
  obtain ⟨digits, hdigits, h⟩ := bind_eq_ok.mp h
  obtain ⟨uppercase, huppercase, h⟩ := bind_eq_ok.mp h
  obtain ⟨lowercase, hlowercase, h⟩ := bind_eq_ok.mp h
  obtain ⟨special, hspecial, h⟩ := bind_eq_ok.mp h
  obtain ⟨chars, hchars, h⟩ := bind_eq_ok.mp h
  obtain ⟨terms, hterms, h⟩ := bind_eq_ok.mp h
  exact ⟨⟨digits, uppercase, lowercase, special, chars, terms⟩, hdigits, huppercase, hlowercase,
    hspecial, hchars, hterms, (Except.ok.inj h).symm⟩

theorem setsField_of_decodeRequirements {r : Requirements}
    (h : decodeRequirements data = .ok (some r)) : r.SetsField := by
  by_cases hmap : data.isMap = true
  · obtain ⟨r', -, -, -, -, -, -, ho⟩ := decodeRequirements_eq_ok hmap h
    split at ho
    · cases ho
    · next hfree =>
        obtain rfl := Option.some.inj ho
        exact Requirements.setsField_iff.mpr hfree
  · rw [decodeRequirements, if_neg hmap] at h
    cases h

/-- **Requirements are dropped exactly if none of their fields is set.** -/
theorem decodeRequirements_eq_none_iff {o : Option Requirements}
    (h : decodeRequirements data = .ok o) :
    o = none ↔ ¬ (data.isMap = true ∧ SetsField data) := by
  by_cases hmap : data.isMap = true
  · obtain ⟨r, hdigits, huppercase, hlowercase, hspecial, hchars, hterms, rfl⟩ :=
      decodeRequirements_eq_ok hmap h
    have hfree : r = .free ↔ ¬ SetsField data := by
      rw [Requirements.eq_free_iff, optional_eq_none_iff hdigits, optional_eq_none_iff huppercase,
        optional_eq_none_iff hlowercase, optional_eq_none_iff hspecial,
        optional_eq_none_iff hchars, ignoredTerms_eq_nil_iff hterms]
      simp only [SetsField, not_or, not_exists, not_and, not_not, Bool.not_eq_true,
        List.mem_cons, List.not_mem_nil, or_false, forall_eq_or_imp, forall_eq, and_assoc]
    split
    · next hr => exact ⟨fun _ hset => hfree.mp hr hset.2, fun _ => rfl⟩
    · next hr => exact ⟨nofun, fun hnot => absurd (hfree.mpr fun hset => hnot ⟨hmap, hset⟩) hr⟩
  · rw [decodeRequirements, if_neg hmap] at h
    exact ⟨fun _ hset => hmap hset.1, fun _ => (Except.ok.inj h).symm⟩

/-! ## Rules -/

theorem decodeConfidence_ok {confidence : Confidence} {events : List Event}
    (h : decodeConfidence ruleId value = .ok (confidence, events)) :
    confidence.label ∈ ["low", "medium", "high"] ∧ events.countP Event.tellsSkip = 0 := by
  unfold decodeConfidence at h
  split at h
  · cases h
    decide
  · obtain ⟨label, -, h⟩ := bind_eq_ok.mp h
    split at h
    · cases h
      exact ⟨by decide, rfl⟩
    · next hknown =>
        cases h
        refine ⟨?_, rfl⟩
        cases hlabel : Confidence.ofLabel (String.ofList (Text.lower label.trim)) with
        | other l => exact absurd hlabel (hknown l)
        | _ => decide

/-- What comes before the confidence of an entry settles identifier, pattern and requirements. -/
theorem decodeGates_ok (h : decodeGates entry ruleId value = .ok rule) :
    rule.id = ruleId ∧ (∃ p, value.toText = .ok p ∧ rule.pattern = some p)
      ∧ decodeRequirements (entry.get "pattern_requirements") = .ok rule.requirements := by
  rw [decodeGates_eq] at h
  obtain ⟨name, -, h⟩ := bind_eq_ok.mp h
  obtain ⟨p, hp, h⟩ := bind_eq_ok.mp h
  obtain ⟨minEntropy, -, h⟩ := bind_eq_ok.mp h
  obtain ⟨requirements, hrequirements, h⟩ := bind_eq_ok.mp h
  cases h
  exact ⟨rfl, ⟨p, hp, rfl⟩, hrequirements⟩

/-- What comes after it changes none of them. -/
theorem decodeNotes_ok (h : decodeNotes entry rule = .ok rule') :
    rule'.id = rule.id ∧ rule'.pattern = rule.pattern ∧ rule'.confidence = rule.confidence
      ∧ rule'.requirements = rule.requirements := by
  obtain ⟨description, -, h⟩ := bind_eq_ok.mp h
  obtain ⟨examples, -, h⟩ := bind_eq_ok.mp h
  cases h
  exact ⟨rfl, rfl, rfl, rfl⟩

/-- An entry with an identifier and a pattern never tells that it is left out. -/
theorem decodeFields_events (entry : Datum) (ruleId : String) (pattern : Datum) :
    (decodeFields entry ruleId pattern).events.countP Event.tellsSkip = 0 := by
  unfold decodeFields
  cases decodeGates entry ruleId pattern with
  | error e => rfl
  | ok rule =>
      cases hconfidence : decodeConfidence ruleId (entry.get "confidence") with
      | error e => rfl
      | ok told => exact (decodeConfidence_ok hconfidence).2

/-- The rule of an entry whose identifier and pattern are given is well formed. -/
theorem decodeFields_ok (hid : ruleId ≠ "") (hgiven : value.isGiven = true)
    (h : (decodeFields entry ruleId value).outcome = .ok rule) :
    rule.WellFormed
      ∧ decodeRequirements (entry.get "pattern_requirements") = .ok rule.requirements := by
  rw [decodeFields_outcome] at h
  obtain ⟨gated, hgates, h⟩ := bind_eq_ok.mp h
  obtain ⟨⟨confidence, events⟩, hconfidence, hnotes⟩ := bind_eq_ok.mp h
  obtain ⟨hid', ⟨p, hp, hpattern⟩, hrequirements⟩ := decodeGates_ok hgates
  obtain ⟨hnotesId, hnotesPattern, hnotesConfidence, hnotesRequirements⟩ := decodeNotes_ok hnotes
  dsimp only at hnotesId hnotesPattern hnotesConfidence hnotesRequirements
  rw [← hnotesRequirements] at hrequirements
  refine ⟨{ id_ne := ?_, pattern := ⟨p, ?_, ?_⟩, confidence := ?_, requirements := ?_ },
    hrequirements⟩
  · rw [hnotesId, hid']
    exact hid
  · rw [hnotesPattern, hpattern]
  · exact toText_ne_nil hgiven hp
  · rw [hnotesConfidence]
    exact (decodeConfidence_ok hconfidence).1
  · intro r hr
    rw [hr] at hrequirements
    exact setsField_of_decodeRequirements hrequirements

/-! ## Entries -/

theorem isGiven_of_firstGiven? {a b : Datum} (h : firstGiven? a b = some value) :
    value.isGiven = true := by
  unfold firstGiven? at h
  split at h
  · next ha => exact Option.some.inj h ▸ ha
  · split at h
    · next hb => exact Option.some.inj h ▸ hb
    · cases h

/-- The two ends to which an entry can come. -/
inductive Accounted (entry : Datum) : Option Rule → List Event → Prop where
  /-- It yields a well-formed rule, which has requirements exactly if the entry sets one, and does
  not tell that it is left out. -/
  | rule {rule : Rule} {events : List Event} : rule.WellFormed →
      (rule.requirements = none ↔ ¬ SetsRequirements entry) →
      events.countP Event.tellsSkip = 0 → Accounted entry (some rule) events
  /-- It yields no rule and tells once that it is left out. -/
  | skipped {events : List Event} : events.countP Event.tellsSkip = 1 → Accounted entry none events

/-- How an entry is read: it is skipped, its identifier has no spelling, or its fields are read. -/
theorem readEntry_cases (entry : Datum) :
    (∃ reason, readEntry entry = .skipped reason)
      ∨ (∃ e, readEntry entry = ⟨[], .error e⟩)
      ∨ ∃ ruleId, ruleId ≠ "" ∧ (entry.get "pattern").isGiven = true
        ∧ readEntry entry = ⟨(decodeFields entry ruleId (entry.get "pattern")).events,
            (decodeFields entry ruleId (entry.get "pattern")).outcome.map some⟩ := by
  unfold readEntry
  split
  · split
    · exact .inl ⟨_, rfl⟩
    · exact .inr (.inl ⟨_, rfl⟩)
    · next t hid =>
        obtain ⟨value, hvalue, ht⟩ := Option.map_eq_some_iff.mp hid
        have hne : t ≠ [] := toText_ne_nil (isGiven_of_firstGiven? hvalue) ht
        dsimp only
        split
        · next hgiven =>
            refine .inr (.inr ⟨String.ofList t, fun h => hne ?_, hgiven, rfl⟩)
            rw [← String.toList_ofList (l := t), h, String.toList_empty]
        · exact .inl ⟨_, rfl⟩
  · exact .inl ⟨_, rfl⟩

/-- What is told of an entry of which a field cannot be read is not that it is left out. -/
theorem readEntry_events_of_error {e : Misfit} (h : (readEntry entry).outcome = .error e) :
    (readEntry entry).events.countP Event.tellsSkip = 0 := by
  rcases readEntry_cases entry with ⟨reason, hread⟩ | ⟨e', hread⟩ | ⟨ruleId, -, -, hread⟩
  · rw [hread] at h
    cases h
  · rw [hread]
    rfl
  · rw [hread]
    exact decodeFields_events entry ruleId _

theorem readEntry_accounted {o : Option Rule} (h : (readEntry entry).outcome = .ok o) :
    Accounted entry o (readEntry entry).events := by
  rcases readEntry_cases entry with ⟨reason, hread⟩ | ⟨e, hread⟩ | ⟨ruleId, hid, hgiven, hread⟩
  · rw [hread] at h ⊢
    cases h
    exact .skipped rfl
  · rw [hread] at h
    cases h
  · rw [hread] at h ⊢
    cases hfields : (decodeFields entry ruleId (entry.get "pattern")).outcome with
    | error e =>
        rw [hfields] at h
        cases h
    | ok rule =>
        rw [hfields] at h
        cases h
        obtain ⟨hwellFormed, hrequirements⟩ := decodeFields_ok hid hgiven hfields
        exact .rule hwellFormed (decodeRequirements_eq_none_iff hrequirements)
          (decodeFields_events entry ruleId _)

/-- How an entry ends: a field that cannot be read adds the event that tells so, and otherwise the
entry stays as it was read. -/
theorem decodeEntry_cases (entry : Datum) :
    (∃ e reason, (readEntry entry).outcome = .error e
        ∧ decodeEntry entry = ⟨(readEntry entry).events ++ [.entrySkipped reason], .ok none⟩)
      ∨ decodeEntry entry = readEntry entry := by
  unfold decodeEntry
  dsimp only
  split
  · next hread => exact .inl ⟨_, _, hread, rfl⟩
  · next hread => exact .inl ⟨_, _, hread, rfl⟩
  · exact .inr rfl

/-- **Every entry that does not stop its document comes to one of the two ends.** -/
theorem decodeEntry_accounted {o : Option Rule} (h : (decodeEntry entry).outcome = .ok o) :
    Accounted entry o (decodeEntry entry).events := by
  rcases decodeEntry_cases entry with ⟨e, reason, hread, hentry⟩ | hentry
  · rw [hentry] at h ⊢
    cases h
    refine .skipped ?_
    rw [List.countP_append, readEntry_events_of_error hread]
    rfl
  · rw [hentry] at h ⊢
    exact readEntry_accounted h

/-! ## Documents -/

theorem ruleOf?_eq {o : Option Rule} (h : (decodeEntry entry).outcome = .ok o) :
    ruleOf? entry = o := by
  rw [ruleOf?, h]

/-- What the entries of a list yield and tell is what each of them does. -/
theorem decodeEntries_eq_ok {entries : List Datum} {rules : List Rule}
    (h : (decodeEntries entries).outcome = .ok rules) :
    (∀ entry ∈ entries, (decodeEntry entry).outcome = .ok (ruleOf? entry))
      ∧ rules = entries.filterMap ruleOf?
      ∧ (decodeEntries entries).events = entries.flatMap fun entry => (decodeEntry entry).events := by
  induction entries generalizing rules with
  | nil =>
      cases h
      exact ⟨nofun, rfl, rfl⟩
  | cons entry entries ih =>
      rw [decodeEntries] at h ⊢
      dsimp only at h ⊢
      cases hentry : (decodeEntry entry).outcome with
      | error e =>
          rw [hentry] at h
          cases h
      | ok o =>
          rw [hentry] at h
          dsimp only at h ⊢
          cases hrest : (decodeEntries entries).outcome with
          | error e =>
              rw [hrest] at h
              cases h
          | ok rest =>
              rw [hrest] at h
              obtain rfl := Except.ok.inj h
              obtain ⟨hall, hrules, hevents⟩ := ih hrest
              have ho := ruleOf?_eq hentry
              refine ⟨List.forall_mem_cons.mpr ⟨by rw [ho, hentry], hall⟩, ?_, ?_⟩
              · rw [List.filterMap_cons, ho, hrules]
                cases o <;> rfl
              · rw [List.flatMap_cons, hevents]

theorem Accounted.countP_tellsSkip {o : Option Rule} {events : List Event}
    (h : Accounted entry o events) :
    events.countP Event.tellsSkip = if o.isSome then 0 else 1 := by
  cases h with
  | rule _ _ hcount => exact hcount
  | skipped hcount => exact hcount

/-- The entries that are told to be left out and the rules add up to the entries. -/
theorem countP_tellsSkip_add_length {entries : List Datum}
    (h : ∀ entry ∈ entries, (decodeEntry entry).outcome = .ok (ruleOf? entry)) :
    (entries.flatMap fun entry => (decodeEntry entry).events).countP Event.tellsSkip
      + (entries.filterMap ruleOf?).length = entries.length := by
  induction entries with
  | nil => rfl
  | cons entry entries ih =>
      obtain ⟨hentry, hrest⟩ := List.forall_mem_cons.mp h
      have hcount := (decodeEntry_accounted hentry).countP_tellsSkip
      rw [List.flatMap_cons, List.countP_append, hcount, List.filterMap_cons, List.length_cons,
        ← ih hrest]
      cases ruleOf? entry with
      | none =>
          simp only [Option.isSome_none, Bool.false_eq_true, if_false]
          omega
      | some rule =>
          simp only [Option.isSome_some, if_true, List.length_cons]
          omega

/-! ## Compiling -/

/-- A complaint has a colon in it. -/
theorem Complaint.mem_message (c : Complaint) : ':' ∈ c.message.toList := by
  show ':' ∈ (c.kind ++ ": " ++ c.text).toList
  rw [String.toList_append, String.toList_append]
  exact List.mem_append_left _ (List.mem_append_right _ List.mem_cons_self)

theorem Pattern.Balance.head?_message {b : Balance} {message : String}
    (h : b.message? = some message) : message.toList.head? = some 'U' := by
  cases b with
  | balanced => cases h
  | unmatchedClose position =>
      cases h
      simp only [String.toList_append, List.head?_append]
      rfl
  | unmatchedOpen depth position =>
      cases h
      simp only [String.toList_append, List.head?_append]
      rfl

/-- What is said of a rule that has a pattern is not that it has none. -/
theorem message_ne_of_usablePattern? {engine : Engine} {p : Text} {d : Diagnostic}
    (hp : rule.usablePattern? = some p) (h : (compile engine rule).diagnostic? = some d) :
    d.objection.message ≠ "Rule has no pattern" := by
  intro hmessage
  unfold compile at h
  rw [hp] at h
  dsimp only at h
  split at h
  · next complaint _ =>
      cases h
      -- what an engine says has a colon in it
      have hcolon := complaint.mem_message
      rw [show complaint.message = _ from hmessage] at hcolon
      exact absurd hcolon (by decide)
  · split at h
    · cases h
    · next message hbalance =>
        cases h
        -- what the balance check says begins with another letter
        have hhead := Pattern.Balance.head?_message hbalance
        rw [show message = _ from hmessage] at hhead
        exact absurd hhead (by decide)

theorem Rule.WellFormed.exists_usablePattern? (h : rule.WellFormed) :
    ∃ p, rule.usablePattern? = some p := by
  obtain ⟨p, hp, hne⟩ := h.pattern
  obtain ⟨c, p, rfl⟩ := List.exists_cons_of_ne_nil hne
  exact ⟨c :: p, by rw [Rule.usablePattern?, hp]⟩

/-- Rules that are well formed are never said to have no pattern. -/
theorem message_ne_of_wellFormed {rules : List Rule} (h : ∀ rule ∈ rules, rule.WellFormed)
    (engine : Engine) :
    ∀ d ∈ (compileAll rules engine).1.diagnostics,
      d.objection.message ≠ "Rule has no pattern" := by
  intro d hd
  rw [diagnostics_compileAll] at hd
  obtain ⟨rule, hrule, hcompile⟩ := List.mem_filterMap.mp hd
  obtain ⟨p, hp⟩ := (h rule hrule).exists_usablePattern?
  exact message_ne_of_usablePattern? hp hcompile

/--
**The account of a rule document.**

A document that yields rules is a list of entries. Its rules are those that the entries yield, in
their order, and every one is well formed. Each entry either yields a rule and has requirements as
it sets them, or it is told once that it is left out; so what is told to be left out and the rules
add up to the entries. No engine that compiles the rules finds one without a pattern.
-/
theorem decodeRules_account {rules : List Rule} (h : (decodeRules data).2 = .ok rules) :
    ∃ entries, entriesOf data = .ok entries
      ∧ rules = entries.filterMap ruleOf?
      ∧ (∀ rule ∈ rules, rule.WellFormed)
      ∧ (decodeRules data).1 = entries.flatMap (fun entry => (decodeEntry entry).events)
      ∧ (∀ entry ∈ entries, Accounted entry (ruleOf? entry) (decodeEntry entry).events)
      ∧ (decodeRules data).1.countP Event.tellsSkip + rules.length = entries.length
      ∧ ∀ engine, ∀ d ∈ (compileAll rules engine).1.diagnostics,
          d.objection.message ≠ "Rule has no pattern" := by
  unfold decodeRules at h ⊢
  cases hentries : entriesOf data with
  | error typeName =>
      rw [hentries] at h
      cases h
  | ok entries =>
      rw [hentries] at h
      obtain ⟨hall, rfl, hevents⟩ := decodeEntries_eq_ok (mapError_eq_ok.mp h)
      have haccounted : ∀ entry ∈ entries,
          Accounted entry (ruleOf? entry) (decodeEntry entry).events := fun entry hentry =>
        decodeEntry_accounted (hall entry hentry)
      have hwellFormed : ∀ rule ∈ entries.filterMap ruleOf?, rule.WellFormed := by
        intro rule hrule
        obtain ⟨entry, hentry, hyields⟩ := List.mem_filterMap.mp hrule
        have hentryAccounted := haccounted entry hentry
        rw [hyields] at hentryAccounted
        cases hentryAccounted with
        | rule hrule _ _ => exact hrule
      refine ⟨entries, rfl, rfl, hwellFormed, hevents, haccounted, ?_,
        message_ne_of_wellFormed hwellFormed⟩
      show (decodeEntries entries).events.countP Event.tellsSkip + _ = _
      rw [hevents]
      exact countP_tellsSkip_add_length hall

/-- A document with two usable entries among three that are left out, one of them after its
confidence was told to mean nothing. -/
theorem decodeRules_account_mixed :
    let key (name : String) : Datum := .text name.toList
    let data : Datum := .map [(key "rules", .list
      [.map [(key "id", key "a"), (key "pattern", key "x+"), (key "confidence", key "odd"),
          (key "pattern_requirements", .map [(key "min_digits", key " 2 ")])],
        key "id", .map [(key "id", key "b")],
        .map [(key "id", key "c"), (key "pattern", key "y"), (key "confidence", key "odd"),
          (key "examples", .int 5)],
        .map [(key "name", .bool true), (key "pattern", .int 7)]])]
    let rules : List Rule :=
      [{ Rule.ofPattern "a" "a" "x+".toList with
          confidence := .low, requirements := some { Requirements.free with minDigits := some 2 } },
        .ofPattern "True" "True" "7".toList]
    (decodeRules data).2 = .ok rules ∧ (∀ rule ∈ rules, rule.WellFormed)
      ∧ (decodeRules data).1.countP Event.tellsSkip = 3
      ∧ ∀ engine, ∀ d ∈ (compileAll rules engine).1.diagnostics,
          d.objection.message ≠ "Rule has no pattern" := by
  intro key data rules
  have h : (decodeRules data).2 = .ok rules := rfl
  obtain ⟨entries, hentries, -, hwellFormed, -, -, hcount, hcompile⟩ := decodeRules_account h
  have hlength : entries.length = 5 := by
    obtain rfl := Except.ok.inj hentries
    rfl
  have hrules : rules.length = 2 := rfl
  exact ⟨h, hwellFormed, by omega, hcompile⟩

end SecretScan
