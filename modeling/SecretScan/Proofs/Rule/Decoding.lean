import SecretScan.Proofs.Failure
import SecretScan.Rule.Decode

/-!
# Which entries stop a rule document

Entries are decoded one by one, so a document is what its entries yield, put together
(`decodeEntries_append`), as long as none of them stops it. Of an entry the first field counts that
cannot be read (`ruleChecks`, `readEntry_eq_error`). Mostly the entry is then left out; it stops the
document if the field is a number beyond all range (`Overflows`): an infinity where a count is
expected, or a whole number that is no floating-point number where an entropy is.
-/

namespace SecretScan

variable {α : Type} {value entry data : Datum} {name : String} {e : Misfit}

/-! ## Fields -/

/-- The value under a key is there and cannot be read. -/
inductive FieldFails (read : Datum → Except Misfit α) (data : Datum) (name : String)
    (e : Misfit) : Prop where
  | unread : data.get name ≠ .null → read (data.get name) = .error e → FieldFails read data name e

/-- A value that may be missing. -/
def optional (read : Datum → Except Misfit α) : Datum → Except Misfit (Option α)
  | .null => .ok none
  | value => (read value).map some

theorem optional_eq_error {read : Datum → Except Misfit α} :
    optional read (data.get name) = .error e ↔ FieldFails read data name e := by
  unfold optional
  split
  · next hnull =>
      refine ⟨nofun, ?_⟩
      rintro ⟨hget, -⟩
      exact absurd hnull hget
  · next hget =>
      rw [map_eq_error]
      exact ⟨.unread hget, fun ⟨_, h⟩ => h⟩

/-- Where a missing value reads without an error, it does not matter that it is missing. -/
theorem read_eq_error {read : Datum → Except Misfit α} {a : α} (hnull : read .null = .ok a) :
    read (data.get name) = .error e ↔ FieldFails read data name e := by
  constructor
  · intro h
    refine .unread (fun hget => ?_) h
    rw [hget, hnull] at h
    cases h
  · rintro ⟨-, h⟩
    exact h

theorem textField_eq_error {usual : String} :
    textField entry name usual = .error e ↔ FieldFails Datum.toText entry name e := by
  have hnull : Datum.toText .null = .ok "None".toList := rfl
  rw [← read_eq_error hnull, textField, Datum.get]
  cases entry.get? name with
  | none => exact ⟨nofun, nofun⟩
  | some value => exact map_eq_error

/-! ## Requirements -/

/-- What is checked in the requirements of a rule, in this order. -/
def requirementChecks (data : Datum) : List (Misfit → Prop) :=
  [FieldFails Datum.toInt data "min_digits", FieldFails Datum.toInt data "min_uppercase",
   FieldFails Datum.toInt data "min_lowercase", FieldFails Datum.toInt data "min_special_chars",
   FieldFails Datum.toText data "special_chars", FieldFails ignoredTerms data "ignore_if_contains"]

/-- The requirements of a rule cannot be read. What is no mapping holds none. -/
inductive RequirementsFail (data : Datum) (e : Misfit) : Prop where
  | first : data.isMap = true → FirstFails id (requirementChecks data) e → RequirementsFail data e

theorem decodeRequirements_of_map (hmap : data.isMap = true) :
    decodeRequirements data = do
      let requirements : Requirements :=
        { minDigits := ← optional Datum.toInt (data.get "min_digits")
          minUppercase := ← optional Datum.toInt (data.get "min_uppercase")
          minLowercase := ← optional Datum.toInt (data.get "min_lowercase")
          minSpecial := ← optional Datum.toInt (data.get "min_special_chars")
          specialChars := ← optional Datum.toText (data.get "special_chars")
          ignoreTerms := ← ignoredTerms (data.get "ignore_if_contains") }
      return if requirements = .free then none else some requirements := by
  unfold decodeRequirements optional
  rw [if_pos hmap]
  cases data.get "special_chars" <;> rfl

theorem decodeRequirements_eq_error :
    decodeRequirements data = .error e ↔ RequirementsFail data e := by
  by_cases hmap : data.isMap = true
  · have hchecks : RequirementsFail data e ↔ FirstFails id (requirementChecks data) e :=
      ⟨fun ⟨_, h⟩ => h, .first hmap⟩
    rw [hchecks, decodeRequirements_of_map hmap, requirementChecks]
    refine FirstFails.bind_iff (fun _ => optional_eq_error) fun digits _ => ?_
    refine FirstFails.bind_iff (fun _ => optional_eq_error) fun uppercase _ => ?_
    refine FirstFails.bind_iff (fun _ => optional_eq_error) fun lowercase _ => ?_
    refine FirstFails.bind_iff (fun _ => optional_eq_error) fun special _ => ?_
    refine FirstFails.bind_iff (fun _ => optional_eq_error) fun chars _ => ?_
    refine FirstFails.bind_iff (fun _ => read_eq_error rfl) fun terms _ => ?_
    exact ⟨nofun, fun h => absurd h FirstFails.not_nil⟩
  · have hnone : decodeRequirements data = .ok none := by
      rw [decodeRequirements, if_neg hmap]
    rw [hnone]
    refine ⟨nofun, ?_⟩
    rintro ⟨h, -⟩
    exact absurd h hmap

theorem decodeConfidence_eq_error {ruleId : String} :
    decodeConfidence ruleId (entry.get "confidence") = .error e ↔
      FieldFails Datum.toText entry "confidence" e := by
  have hnull : Datum.toText .null = .ok "None".toList := rfl
  rw [← read_eq_error hnull]
  unfold decodeConfidence
  split
  · next h =>
      rw [h, hnull]
      exact ⟨nofun, nofun⟩
  · rw [bind_eq_error]
    refine ⟨?_, .inl⟩
    rintro (h | ⟨label, -, h⟩)
    · exact h
    · split at h <;> cases h

/-! ## Entries -/

/-- What is checked in an entry before its confidence. -/
def gateChecks (entry : Datum) : List (Misfit → Prop) :=
  [FieldFails Datum.toText entry "name", FieldFails Datum.toText entry "pattern",
   FieldFails Datum.toFloat entry "min_entropy",
   RequirementsFail (entry.get "pattern_requirements")]

/-- What is checked in an entry after its confidence. -/
def noteChecks (entry : Datum) : List (Misfit → Prop) :=
  [FieldFails Datum.toText entry "description", FieldFails spelledParts entry "examples"]

/-- What is checked in an entry with an identifier and a pattern, in this order. -/
def ruleChecks (entry : Datum) : List (Misfit → Prop) :=
  gateChecks entry ++ FieldFails Datum.toText entry "confidence" :: noteChecks entry

theorem decodeGates_eq (entry : Datum) (ruleId : String) (pattern : Datum) :
    decodeGates entry ruleId pattern = do
      let name ← textField entry "name" ruleId
      let pattern ← pattern.toText
      let minEntropy ← optional Datum.toFloat (entry.get "min_entropy")
      let requirements ← decodeRequirements (entry.get "pattern_requirements")
      return { Rule.ofPattern ruleId name pattern with minEntropy, requirements } := by
  unfold decodeGates optional
  cases entry.get "min_entropy" <;> rfl

theorem decodeGates_eq_error {ruleId : String} :
    decodeGates entry ruleId (entry.get "pattern") = .error e ↔
      FirstFails id (gateChecks entry) e := by
  rw [decodeGates_eq, gateChecks]
  refine FirstFails.bind_iff (fun _ => textField_eq_error) fun name _ => ?_
  refine FirstFails.bind_iff (fun _ => read_eq_error rfl) fun pattern _ => ?_
  refine FirstFails.bind_iff (fun _ => optional_eq_error) fun entropy _ => ?_
  refine FirstFails.bind_iff (fun _ => decodeRequirements_eq_error) fun requirements _ => ?_
  exact ⟨nofun, fun h => absurd h FirstFails.not_nil⟩

theorem decodeNotes_eq_error {rule : Rule} :
    decodeNotes entry rule = .error e ↔ FirstFails id (noteChecks entry) e := by
  unfold decodeNotes noteChecks
  refine FirstFails.bind_iff (fun _ => textField_eq_error) fun description _ => ?_
  refine FirstFails.bind_iff (fun _ => read_eq_error rfl) fun examples _ => ?_
  exact ⟨nofun, fun h => absurd h FirstFails.not_nil⟩

theorem decodeFields_outcome (entry : Datum) (ruleId : String) (pattern : Datum) :
    (decodeFields entry ruleId pattern).outcome
      = decodeGates entry ruleId pattern >>= fun rule =>
          decodeConfidence ruleId (entry.get "confidence") >>= fun told =>
            decodeNotes entry { rule with confidence := told.1 } := by
  unfold decodeFields
  cases decodeGates entry ruleId pattern with
  | error e => rfl
  | ok rule => cases decodeConfidence ruleId (entry.get "confidence") <;> rfl

theorem decodeFields_eq_error {ruleId : String} :
    (decodeFields entry ruleId (entry.get "pattern")).outcome = .error e ↔
      FirstFails id (ruleChecks entry) e := by
  rw [decodeFields_outcome, ruleChecks]
  refine FirstFails.bind_append_iff (fun _ => decodeGates_eq_error) fun rule _ => ?_
  refine FirstFails.bind_iff (fun _ => decodeConfidence_eq_error) fun told _ => ?_
  exact decodeNotes_eq_error

/-- How an entry cannot be read. Without an identifier or a pattern it is left out before that. -/
inductive EntryFails (entry : Datum) (e : Misfit) : Prop where
  /-- Its identifier has no spelling. -/
  | ruleId {value : Datum} : entry.isMap = true →
      firstGiven? (entry.get "id") (entry.get "name") = some value → value.toText = .error e →
      EntryFails entry e
  /-- Its identifier has one, but another field cannot be read. -/
  | field {value : Datum} {t : Text} : entry.isMap = true →
      firstGiven? (entry.get "id") (entry.get "name") = some value → value.toText = .ok t →
      (entry.get "pattern").isGiven = true → FirstFails id (ruleChecks entry) e →
      EntryFails entry e

theorem readEntry_eq_error : (readEntry entry).outcome = .error e ↔ EntryFails entry e := by
  unfold readEntry
  constructor
  · intro h
    split at h
    · next hmap =>
        split at h
        · cases h
        · next e' hid =>
            obtain ⟨value, hvalue, htext⟩ := Option.map_eq_some_iff.mp hid
            cases h
            exact .ruleId hmap hvalue htext
        · next t hid =>
            obtain ⟨value, hvalue, htext⟩ := Option.map_eq_some_iff.mp hid
            dsimp only at h
            split at h
            · next hpattern =>
                have hfields := decodeFields_eq_error.mp (map_eq_error.mp h)
                exact .field hmap hvalue htext hpattern hfields
            · cases h
    · cases h
  · rintro (⟨hmap, hvalue, htext⟩ | ⟨hmap, hvalue, htext, hpattern, hfields⟩)
    · rw [if_pos hmap, hvalue, Option.map_some, htext]
    · rw [if_pos hmap, hvalue, Option.map_some, htext]
      dsimp only
      rw [if_pos hpattern]
      exact map_eq_error.mpr (decodeFields_eq_error.mpr hfields)

/-! ## Numbers beyond all range -/

/-- Where only the entry is left out. -/
def Misfit.IsHarmless (e : Misfit) : Prop :=
  e = .wrongType ∨ e = .wrongValue

/-- A number in an entry is beyond all range. -/
inductive OutOfRange (entry : Datum) : Misfit → Prop where
  /-- A count in its requirements is an infinity. -/
  | count {name : String} {x : Float} {negative : Bool} :
      name ∈ ["min_digits", "min_uppercase", "min_lowercase", "min_special_chars"] →
      (entry.get "pattern_requirements").get name = .float x →
      Decimal.Binary.ofFloat x = .infinite negative → OutOfRange entry .infinite
  /-- Its entropy is a whole number that is larger than all floating-point numbers. -/
  | entropy {n : Int} : entry.get "min_entropy" = .int n → Decimal.ofInt n = .error .tooLarge →
      OutOfRange entry .tooLarge

theorem readable_error {o : Option α} (h : Datum.readable o = .error e) : e.IsHarmless := by
  cases o <;> cases h
  exact .inr rfl

theorem spelledParts_error (h : spelledParts value = .error e) : e.IsHarmless := by
  unfold spelledParts at h
  split at h
  · split at h
    · cases h
    · split at h
      · obtain ⟨part, -, hpart⟩ := (FirstFails.mapM_iff.mp h).exists_mem
        exact readable_error hpart
      · cases h
        exact .inl rfl
  · cases h

theorem ignoredTerms_error (h : ignoredTerms value = .error e) : e.IsHarmless := by
  unfold ignoredTerms at h
  split at h
  · cases h
  · exact spelledParts_error h

theorem toInt_error (h : value.toInt = .error e) :
    e.IsHarmless
      ∨ e = .infinite ∧ ∃ x negative, value = .float x
          ∧ Decimal.Binary.ofFloat x = .infinite negative := by
  cases value with
  | bool b => cases h
  | int n => cases h
  | float x =>
      simp only [Datum.toInt, Decimal.truncate] at h
      split at h
      · cases h
        exact .inl (.inr rfl)
      · next negative hx =>
          cases h
          exact .inr ⟨rfl, x, negative, rfl, hx⟩
      · cases h
  | text t => exact .inl (readable_error h)
  | bytes bs => exact .inl (readable_error h)
  | _ =>
      cases h
      exact .inl (.inl rfl)

theorem toFloat_error (h : value.toFloat = .error e) :
    e.IsHarmless ∨ e = .tooLarge ∧ ∃ n, value = .int n ∧ Decimal.ofInt n = .error .tooLarge := by
  cases value with
  | bool b => cases h
  | int n =>
      simp only [Datum.toFloat] at h
      have htooLarge : e = .tooLarge := by
        unfold Decimal.ofInt at h
        dsimp only at h
        split at h <;> cases h
        rfl
      subst htooLarge
      exact .inr ⟨rfl, n, rfl, h⟩
  | float x => cases h
  | text t => exact .inl (readable_error h)
  | bytes bs => exact .inl (readable_error h)
  | _ =>
      cases h
      exact .inl (.inl rfl)

theorem requirements_error (h : RequirementsFail (entry.get "pattern_requirements") e) :
    e.IsHarmless ∨ OutOfRange entry e := by
  obtain ⟨-, hfirst⟩ := h
  -- whichever count it is, it is an infinity
  have hcount : ∀ {name}, name ∈ ["min_digits", "min_uppercase", "min_lowercase",
      "min_special_chars"] → FieldFails Datum.toInt (entry.get "pattern_requirements") name e →
      e.IsHarmless ∨ OutOfRange entry e := by
    rintro name hname ⟨-, hint⟩
    rcases toInt_error hint with h | ⟨rfl, x, negative, hvalue, hx⟩
    · exact .inl h
    · exact .inr (.count hname hvalue hx)
  obtain ⟨check, hmem, hcheck⟩ := hfirst.exists_mem
  simp only [requirementChecks, List.mem_cons, List.not_mem_nil, or_false] at hmem
  rcases hmem with rfl | rfl | rfl | rfl | rfl | rfl
  · exact hcount (by decide) hcheck
  · exact hcount (by decide) hcheck
  · exact hcount (by decide) hcheck
  · exact hcount (by decide) hcheck
  · obtain ⟨-, h⟩ := hcheck
    exact .inl (readable_error h)
  · obtain ⟨-, h⟩ := hcheck
    exact .inl (ignoredTerms_error h)

theorem entry_error (h : EntryFails entry e) : e.IsHarmless ∨ OutOfRange entry e := by
  have htext : ∀ {name}, FieldFails Datum.toText entry name e → e.IsHarmless := by
    rintro name ⟨-, h⟩
    exact readable_error h
  rcases h with ⟨-, -, hid⟩ | ⟨-, -, -, -, hfirst⟩
  · exact .inl (readable_error hid)
  · obtain ⟨check, hmem, hcheck⟩ := hfirst.exists_mem
    simp only [ruleChecks, gateChecks, noteChecks, List.cons_append, List.nil_append,
      List.mem_cons, List.not_mem_nil, or_false] at hmem
    rcases hmem with rfl | rfl | rfl | rfl | rfl | rfl | rfl
    · exact .inl (htext hcheck)
    · exact .inl (htext hcheck)
    · obtain ⟨-, hfloat⟩ := hcheck
      rcases toFloat_error hfloat with h | ⟨rfl, n, hvalue, hn⟩
      · exact .inl h
      · exact .inr (.entropy hvalue hn)
    · exact requirements_error hcheck
    · exact .inl (htext hcheck)
    · exact .inl (htext hcheck)
    · obtain ⟨-, h⟩ := hcheck
      exact .inl (spelledParts_error h)

/-- The entry stops the document: the first field of it that cannot be read is out of range. -/
def Overflows (entry : Datum) (e : Misfit) : Prop :=
  EntryFails entry e ∧ ¬ e.IsHarmless

theorem Overflows.outOfRange (h : Overflows entry e) : OutOfRange entry e :=
  (entry_error h.1).resolve_left h.2

theorem decodeEntry_eq_error : (decodeEntry entry).outcome = .error e ↔ Overflows entry e := by
  rw [Overflows, ← readEntry_eq_error]
  unfold decodeEntry Misfit.IsHarmless
  dsimp only
  -- the two harmless failures leave the entry out, and any other one is passed on
  split
  · next h =>
      rw [h]
      refine ⟨nofun, ?_⟩
      rintro ⟨he, hnot⟩
      cases he
      exact absurd (.inl rfl) hnot
  · next h =>
      rw [h]
      refine ⟨nofun, ?_⟩
      rintro ⟨he, hnot⟩
      cases he
      exact absurd (.inr rfl) hnot
  · next htype hvalue =>
      refine ⟨fun h => ⟨h, ?_⟩, And.left⟩
      rintro (rfl | rfl)
      · exact htype h
      · exact hvalue h

/-! ## Documents -/

/-- What is told and yielded first, and then what is told and yielded by others, unless the first
stops the document. -/
def Decoded.followedBy (d others : Decoded (List Rule)) : Decoded (List Rule) :=
  match d.outcome with
  | .error _ => d
  | .ok rules => ⟨d.events ++ others.events, others.outcome.map (rules ++ ·)⟩

theorem Decoded.followedBy_assoc (d d' d'' : Decoded (List Rule)) :
    (d.followedBy d').followedBy d'' = d.followedBy (d'.followedBy d'') := by
  obtain ⟨events, outcome⟩ := d
  obtain ⟨events', outcome'⟩ := d'
  obtain ⟨events'', outcome''⟩ := d''
  cases outcome with
  | error e => rfl
  | ok rules =>
      cases outcome' with
      | error e => rfl
      | ok rules' =>
          cases outcome'' <;> simp [followedBy, Except.map]

theorem Decoded.followedBy_eq_ok {d d' : Decoded (List Rule)} {rules : List Rule} :
    (d.followedBy d').outcome = .ok rules ↔
      ∃ first last, d.outcome = .ok first ∧ d'.outcome = .ok last ∧ rules = first ++ last := by
  obtain ⟨events, outcome⟩ := d
  obtain ⟨events', outcome'⟩ := d'
  cases outcome <;> cases outcome' <;> simp [followedBy, Except.map, eq_comm]

theorem Decoded.followedBy_events {d d' : Decoded (List Rule)} {rules : List Rule}
    (h : d.outcome = .ok rules) : (d.followedBy d').events = d.events ++ d'.events := by
  rw [followedBy, h]

/-- What an entry tells and yields by itself. -/
def yieldOf (entry : Datum) : Decoded (List Rule) :=
  ⟨(decodeEntry entry).events, (decodeEntry entry).outcome.map Option.toList⟩

theorem decodeEntries_cons (entry : Datum) (entries : List Datum) :
    decodeEntries (entry :: entries) = (yieldOf entry).followedBy (decodeEntries entries) := by
  rw [decodeEntries, yieldOf]
  dsimp only
  cases (decodeEntry entry).outcome <;> rfl

theorem decodeEntries_singleton (entry : Datum) : decodeEntries [entry] = yieldOf entry := by
  rw [decodeEntries_cons, decodeEntries]
  generalize yieldOf entry = d
  obtain ⟨events, outcome⟩ := d
  cases outcome <;> simp [Decoded.followedBy, Except.map]

/-- **Entries tell and yield what each of them does, as long as none stops the document.** -/
theorem decodeEntries_append (xs ys : List Datum) :
    decodeEntries (xs ++ ys) = (decodeEntries xs).followedBy (decodeEntries ys) := by
  induction xs with
  | nil =>
      rw [List.nil_append, decodeEntries]
      generalize decodeEntries ys = d
      obtain ⟨events, outcome⟩ := d
      cases outcome <;> rfl
  | cons entry xs ih =>
      rw [List.cons_append, decodeEntries_cons, ih, decodeEntries_cons, Decoded.followedBy_assoc]

theorem decodeEntries_eq_error {entries : List Datum} :
    (decodeEntries entries).outcome = .error e ↔ FirstFails Overflows entries e := by
  induction entries with
  | nil => exact ⟨nofun, fun h => absurd h FirstFails.not_nil⟩
  | cons entry entries ih =>
      have hbind : (decodeEntries (entry :: entries)).outcome
          = (decodeEntry entry).outcome >>= fun rule =>
              (decodeEntries entries).outcome.map (rule.toList ++ ·) := by
        rw [decodeEntries]
        dsimp only
        cases (decodeEntry entry).outcome <;> rfl
      rw [hbind]
      exact FirstFails.bind_iff (fun _ => decodeEntry_eq_error) fun _ _ => map_eq_error.trans ih

theorem decodeRules_list_eq_ok {entries : List Datum} {rules : List Rule} :
    (decodeRules (.list entries)).2 = .ok rules ↔ (decodeEntries entries).outcome = .ok rules :=
  mapError_eq_ok

theorem decodeRules_list_eq_error {entries : List Datum} {e : DocumentError} :
    (decodeRules (.list entries)).2 = .error e ↔
      ∃ misfit, e = .misfit misfit ∧ FirstFails Overflows entries misfit := by
  have hlist : (decodeRules (.list entries)).2
      = (decodeEntries entries).outcome.mapError .misfit := rfl
  rw [hlist, mapError_eq_error]
  constructor
  · rintro ⟨misfit, h, rfl⟩
    exact ⟨misfit, rfl, decodeEntries_eq_error.mp h⟩
  · rintro ⟨misfit, rfl, h⟩
    exact ⟨misfit, decodeEntries_eq_error.mpr h, rfl⟩

/-- An entry yields one rule at most. -/
theorem yieldOf_eq_ok {rules : List Rule} (h : (yieldOf entry).outcome = .ok rules) :
    ∃ rule : Option Rule, rules = rule.toList := by
  unfold yieldOf at h
  cases hentry : (decodeEntry entry).outcome with
  | error e =>
      rw [hentry] at h
      cases h
  | ok rule =>
      rw [hentry] at h
      cases h
      exact ⟨rule, rfl⟩

/--
**What one entry does to the others of its document.**

A list of entries has rules exactly if no entry of it stops it, and these are the rules of the
entries before one, of this one by itself, which are one at most, and of the entries behind it; the
same holds for what is told. A list that has no rules has the error of the first entry that stops
it. Only an entry with a number beyond all range does: an infinity for a count of its requirements,
or a whole number for its entropy that is larger than all floating-point numbers.
-/
theorem decodeRules_middle (xs : List Datum) (entry : Datum) (ys : List Datum) :
    let whole := decodeRules (.list (xs ++ entry :: ys))
    let before := decodeRules (.list xs)
    let alone := decodeRules (.list [entry])
    let behind := decodeRules (.list ys)
    (∀ rules, whole.2 = .ok rules ↔
        ∃ (first : List Rule) (rule : Option Rule) (last : List Rule),
          before.2 = .ok first ∧ alone.2 = .ok rule.toList ∧ behind.2 = .ok last
            ∧ rules = first ++ rule.toList ++ last)
      ∧ (∀ rules, whole.2 = .ok rules → whole.1 = before.1 ++ alone.1 ++ behind.1)
      ∧ ((∃ rules, whole.2 = .ok rules) ↔ ∀ other ∈ xs ++ entry :: ys, ∀ e, ¬ Overflows other e)
      ∧ (∀ e, whole.2 = .error e ↔
          ∃ misfit, e = .misfit misfit ∧ FirstFails Overflows (xs ++ entry :: ys) misfit)
      ∧ ∀ other e, Overflows other e → OutOfRange other e := by
  intro whole before alone behind
  have hsplit : decodeEntries (xs ++ entry :: ys)
      = (decodeEntries xs).followedBy ((yieldOf entry).followedBy (decodeEntries ys)) := by
    rw [decodeEntries_append, decodeEntries_cons]
  refine ⟨fun rules => ?_, fun rules hrules => ?_, ⟨?_, fun hnone => ?_⟩,
    fun e => decodeRules_list_eq_error, fun other e => Overflows.outOfRange⟩
  · simp only [whole, before, alone, behind, decodeRules_list_eq_ok, hsplit,
      decodeEntries_singleton, Decoded.followedBy_eq_ok]
    constructor
    · rintro ⟨first, rest, hfirst, ⟨one, last, hone, hlast, rfl⟩, rfl⟩
      obtain ⟨rule, rfl⟩ := yieldOf_eq_ok hone
      exact ⟨first, rule, last, hfirst, hone, hlast, (List.append_assoc _ _ _).symm⟩
    · rintro ⟨first, rule, last, hfirst, hone, hlast, rfl⟩
      exact ⟨first, _, hfirst, ⟨_, last, hone, hlast, rfl⟩, List.append_assoc _ _ _⟩
  · have hwhole := decodeRules_list_eq_ok.mp hrules
    rw [hsplit, Decoded.followedBy_eq_ok] at hwhole
    obtain ⟨first, rest, hfirst, hrest, -⟩ := hwhole
    obtain ⟨one, last, hone, -, -⟩ := Decoded.followedBy_eq_ok.mp hrest
    show (decodeEntries (xs ++ entry :: ys)).events
      = (decodeEntries xs).events ++ (decodeEntries [entry]).events ++ (decodeEntries ys).events
    rw [hsplit, Decoded.followedBy_events hfirst, Decoded.followedBy_events hone,
      decodeEntries_singleton, List.append_assoc]
  · rintro ⟨rules, hrules⟩ other hother e hoverflows
    obtain ⟨e', hfirst⟩ := FirstFails.exists_of_mem hother hoverflows
    have herror := decodeRules_list_eq_error.mpr ⟨e', rfl, hfirst⟩
    exact nomatch hrules.symm.trans herror
  · cases hwhole : whole.2 with
    | ok rules => exact ⟨rules, rfl⟩
    | error e =>
        obtain ⟨misfit, -, hfirst⟩ := decodeRules_list_eq_error.mp hwhole
        obtain ⟨other, hother, hoverflows⟩ := hfirst.exists_mem
        exact absurd hoverflows (hnone other hother misfit)

/-- An infinity for a count of one entry takes the rules of the others with it. -/
theorem decodeRules_infinity :
    let key (name : String) : Datum := .text name.toList
    let infinite : Datum := .map [(key "id", key "a"), (key "pattern", key "x"),
      (key "pattern_requirements", .map [(key "min_digits", .float (1.0 / 0.0))])]
    let usable : Datum := .map [(key "id", key "b"), (key "pattern", key "y")]
    (decodeRules (.list [usable])).2 = .ok [.ofPattern "b" "b" "y".toList]
      ∧ (decodeRules (.list ([] ++ infinite :: [usable]))).2
        = .error (.misfit .infinite) :=
  ⟨rfl, rfl⟩

end SecretScan
