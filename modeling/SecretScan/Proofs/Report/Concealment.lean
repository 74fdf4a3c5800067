import Mathlib.Data.List.Forall2
import SecretScan.Command.Scan

/-!
# What a report shows of a secret

A report is written from findings that hold the secret and the text around it. With redaction on it
is a report without redaction of other findings, in which the secret is replaced and its
surroundings are left out (`toJson_redacted`, `shown_redacted`), so nothing can be read off it that
these do not hold. A report for code scanning services can even do without the secret
(`toSarif_masked`). Results that differ in secrets and surroundings alone have the same report as
soon as the secrets are redacted to the same text, and that is so exactly if they look alike
(`redact_eq_iff`).
-/

namespace SecretScan

/-! ## Secrets -/

/-- Two secrets that look alike: both too short to be shown, or with the same first four and last
two characters. -/
def LooksLike (secret other : Text) : Prop :=
  (secret.length ≤ 6 ∧ other.length ≤ 6)
    ∨ (6 < secret.length ∧ 6 < other.length ∧ secret.take 4 = other.take 4
      ∧ secret.drop (secret.length - 2) = other.drop (other.length - 2))

instance (secret other : Text) : Decidable (LooksLike secret other) :=
  inferInstanceAs (Decidable (_ ∨ _))

theorem redact_of_short {secret : Text} (h : secret.length ≤ 6) : redact secret = hidden :=
  if_pos h

theorem redact_of_long {secret : Text} (h : 6 < secret.length) :
    redact secret = secret.take 4 ++ ("...".toList ++ secret.drop (secret.length - 2)) := by
  rw [redact, if_neg (Nat.not_le.mpr h), List.append_assoc]

/-- What is shown of a long secret is shorter than what stands for a short one. -/
theorem redact_ne_hidden {secret : Text} (h : 6 < secret.length) : redact secret ≠ hidden := by
  intro heq
  have hlength := congrArg List.length heq
  rw [redact_of_long h] at hlength
  simp only [List.length_append, List.length_take, List.length_drop] at hlength
  -- nine characters are not ten
  have hdots : "...".toList.length = 3 := rfl
  have hhidden : hidden.length = 10 := rfl
  omega

theorem LooksLike.redact_eq {secret other : Text} (h : LooksLike secret other) :
    redact secret = redact other := by
  rcases h with ⟨hshort, hshort'⟩ | ⟨hlong, hlong', hfront, hback⟩
  · rw [redact_of_short hshort, redact_of_short hshort']
  · rw [redact_of_long hlong, redact_of_long hlong', hfront, hback]

/-- **Secrets are redacted to the same text exactly if they look alike.** -/
theorem redact_eq_iff {secret other : Text} :
    redact secret = redact other ↔ LooksLike secret other := by
  refine ⟨fun h => ?_, LooksLike.redact_eq⟩
  rcases Nat.lt_or_ge 6 secret.length with hlong | hshort
  · rcases Nat.lt_or_ge 6 other.length with hlong' | hshort'
    · rw [redact_of_long hlong, redact_of_long hlong'] at h
      -- the dots stand at the same place, so both sides of them agree
      have hlength : (secret.take 4).length = (other.take 4).length := by
        rw [List.length_take, List.length_take]
        omega
      obtain ⟨hfront, hrest⟩ := List.append_inj h hlength
      exact .inr ⟨hlong, hlong', hfront, (List.append_right_inj _).mp hrest⟩
    · rw [redact_of_short hshort'] at h
      exact absurd h (redact_ne_hidden hlong)
  · rcases Nat.lt_or_ge 6 other.length with hlong' | hshort'
    · rw [redact_of_short hshort] at h
      exact absurd h.symm (redact_ne_hidden hlong')
    · exact .inl ⟨hshort, hshort'⟩

/-! ## Findings -/

namespace Finding

/-- The finding without its secret and without what stands around it. -/
def masked (f : Finding) : Finding :=
  { f with found := { f.found with text := [] }, context := [] }

/-- The finding with its secret redacted and without what stands around it. -/
def redacted (f : Finding) : Finding :=
  { f with found := { f.found with text := redact f.found.text }, context := [] }

theorem redacted_eq {f g : Finding} (hmasked : f.masked = g.masked)
    (halike : LooksLike f.found.text g.found.text) : f.redacted = g.redacted := by
  have hredacted (f : Finding) : f.redacted
      = { f.masked with found := { f.masked.found with text := redact f.found.text } } := rfl
  rw [hredacted, hredacted, hmasked, halike.redact_eq]

theorem toJson_redacted (f : Finding) : f.redacted.toJson false = f.toJson true := rfl

theorem findingRow_redacted (f : Finding) :
    Report.findingRow false f.redacted = Report.findingRow true f := by
  unfold Report.findingRow display redacted
  rfl

/-- The report for programs tells apart what does not look alike. -/
theorem looksLike_of_toJson_eq {f g : Finding} (h : f.toJson true = g.toJson true) :
    LooksLike f.found.text g.found.text := by
  unfold toJson Event.ofText display at h
  simp only [Json.object.injEq, List.cons_append, List.cons.injEq, Prod.mk.injEq, Json.text.injEq,
    true_and, if_true] at h
  obtain ⟨-, -, -, -, -, -, -, hvalue, -⟩ := h
  exact redact_eq_iff.mp (String.ofList_injective hvalue)

end Finding

theorem map_redacted_eq {fs gs : List Finding}
    (hmasked : fs.map Finding.masked = gs.map Finding.masked)
    (halike : List.Forall₂ (fun f g => LooksLike f.found.text g.found.text) fs gs) :
    fs.map Finding.redacted = gs.map Finding.redacted := by
  induction halike with
  | nil => rfl
  | cons hfg _ ih =>
      rw [List.map_cons, List.map_cons, List.cons.injEq] at hmasked
      rw [List.map_cons, List.map_cons, Finding.redacted_eq hmasked.1 hfg, ih hmasked.2]

/-! ## Results -/

namespace BatchResult

variable {r r' : BatchResult}

/-- The result without secrets and what stands around them. -/
def masked (r : BatchResult) : BatchResult :=
  { r with findings := r.findings.map Finding.masked }

/-- The result with redacted secrets and without what stands around them. -/
def redacted (r : BatchResult) : BatchResult :=
  { r with findings := r.findings.map Finding.redacted }

/-- Results have secrets that look alike, one by one. -/
def LookAlike (r r' : BatchResult) : Prop :=
  List.Forall₂ (fun f g => LooksLike f.found.text g.found.text) r.findings r'.findings

theorem redacted_eq (hmasked : r.masked = r'.masked) (halike : r.LookAlike r') :
    r.redacted = r'.redacted := by
  have hredacted (r : BatchResult) :
      r.redacted = { r.masked with findings := r.findings.map Finding.redacted } := rfl
  rw [hredacted, hredacted, hmasked,
    map_redacted_eq (congrArg BatchResult.findings hmasked) halike]

/-! ### Reports -/

theorem toJson_redacted (r : BatchResult) : r.redacted.toJson false = r.toJson true := by
  unfold toJson redacted
  simp only [List.map_map, List.length_map, Function.comp_def, Finding.toJson_redacted]

theorem findingTable_redacted (r : BatchResult) :
    Report.findingTable false r.redacted.findings = Report.findingTable true r.findings := by
  unfold Report.findingTable redacted
  simp only [List.map_map, Function.comp_def, Finding.findingRow_redacted]

theorem summary_redacted (r : BatchResult) (line : String → Console.Shown) :
    Report.summary line r.redacted = Report.summary line r := by
  unfold Report.summary timeouts redacted
  simp only [List.length_map]

theorem shown_redacted (r : BatchResult) (screen : Nat) (summarised : Bool) (console : Console) :
    r.redacted.shown screen false summarised console = r.shown screen true summarised console := by
  have hempty : r.redacted.findings.isEmpty = r.findings.isEmpty := List.isEmpty_map
  rw [shown, shown, findingTable_redacted, summary_redacted, hempty]

theorem firsts_masked (known : List String) (fs : List Finding) :
    Sarif.firsts known (fs.map Finding.masked) = (Sarif.firsts known fs).map Finding.masked := by
  induction fs generalizing known with
  | nil => rfl
  | cons f fs ih =>
      -- whether a rule is known already is decided by its identifier, which is not masked
      rw [List.map_cons, Sarif.firsts, Sarif.firsts]
      change (if f.found.ruleId ∈ known then _ else _ :: Sarif.firsts (f.found.ruleId :: known) _)
        = _
      split
      · exact ih known
      · exact congrArg (f.masked :: ·) (ih _)

/-- **A report for code scanning services shows nothing of a secret.** -/
theorem toSarif_masked (r : BatchResult) : r.masked.toSarif = r.toSarif := by
  unfold toSarif masked
  rw [firsts_masked, List.map_map, List.map_map]
  rfl

/-- A report for programs tells apart what does not look alike. -/
theorem lookAlike_of_toJson_eq (h : r.toJson true = r'.toJson true) : r.LookAlike r' := by
  unfold toJson at h
  simp only [Json.object.injEq, List.cons.injEq, Prod.mk.injEq, Json.list.injEq, true_and] at h
  obtain ⟨-, -, -, hfindings, -⟩ := h
  rw [← List.forall₂_eq_eq_eq, List.forall₂_map_left_iff, List.forall₂_map_right_iff] at hfindings
  exact hfindings.imp fun _ _ => Finding.looksLike_of_toJson_eq

theorem toJson_eq (h : r.masked = r'.masked) (halike : r.LookAlike r') :
    r.toJson true = r'.toJson true := by
  rw [← toJson_redacted, ← toJson_redacted, redacted_eq h halike]

theorem shown_eq (h : r.masked = r'.masked) (halike : r.LookAlike r') (screen : Nat)
    (summarised : Bool) (console : Console) :
    r.shown screen true summarised console = r'.shown screen true summarised console := by
  rw [← shown_redacted, ← shown_redacted, redacted_eq h halike]

theorem toSarif_eq (h : r.masked = r'.masked) : r.toSarif = r'.toSarif := by
  rw [← r.toSarif_masked, ← r'.toSarif_masked, h]

/-- Under no form does a document tell apart secrets that look alike. -/
theorem document?_eq (h : r.masked = r'.masked) (halike : r.LookAlike r') (format : Format) :
    r.document? format true = r'.document? format true := by
  cases format with
  | terminal => rfl
  | json => rw [document?, document?, toJson_eq h halike]
  | sarif => rw [document?, document?, toSarif_eq h]

/-- What a scan comes to does not tell apart secrets that look alike: neither what it shows, prints
or writes, nor its exit code. -/
theorem report_eq (h : r.masked = r'.masked) (halike : r.LookAlike r') {job : ScanJob}
    (hredact : job.settings.output.redact.isGiven = true) (args : ScanArguments) (s : Surroundings)
    (o : Outcome) : job.report args s r o = job.report args s r' o := by
  have hduration : r.masked.duration = r'.masked.duration := congrArg BatchResult.duration h
  change r.duration = r'.duration at hduration
  have hexit : r.exitCode = r'.exitCode := by
    have hempty := congrArg List.isEmpty (congrArg BatchResult.findings h)
    simp only [masked, List.isEmpty_map] at hempty
    rw [exitCode, exitCode, hempty]
  unfold ScanJob.report
  simp only [hredact, hduration, hexit, toJson_eq h halike, shown_eq h halike,
    document?_eq h halike]

/--
**Reports conceal secrets.**

Let two results differ in nothing but the secrets of corresponding findings and what stands around
them. With redaction on they have the same report for programs exactly if the secrets look alike one
by one, and then they have the same report for people on every console too, and a scan comes to the
same with either of them. Their reports for code scanning services are the same whatever the secrets
are.
-/
theorem reports_conceal (h : r.masked = r'.masked) :
    (r.toJson true = r'.toJson true ↔ r.LookAlike r')
      ∧ (r.LookAlike r' →
        r.document? .json true = r'.document? .json true
          ∧ (∀ screen summarised console,
            r.shown screen true summarised console = r'.shown screen true summarised console)
          ∧ ∀ job : ScanJob, job.settings.output.redact.isGiven = true → ∀ args s o,
            job.report args s r o = job.report args s r' o)
      ∧ r.toSarif = r'.toSarif
      ∧ ∀ redacted, r.document? .sarif redacted = r'.document? .sarif redacted := by
  refine ⟨⟨lookAlike_of_toJson_eq, toJson_eq h⟩, fun halike => ?_, toSarif_eq h, fun redacted => ?_⟩
  · exact ⟨document?_eq h halike .json, shown_eq h halike,
      fun _ hredact => report_eq h halike hredact⟩
  · rw [document?, document?, toSarif_eq h]

/-- The result of finding these secrets in a file. -/
def ofSecrets (secrets : List Text) : BatchResult :=
  { empty with
    findings := secrets.map fun secret =>
      { found :=
          { ruleId := "token", ruleName := "Token", confidence := .high, text := secret,
            offset := 8, entropy := none, ignored := false }
        score := .clamp 90
        context := "token = ".toList ++ secret
        location := "a.py".toList
        line := 1 } }

/-- A secret of seven characters can be told apart from one of six, but not by a code scanning
service. -/
theorem reports_conceal_tokens :
    let r := ofSecrets ["ghp_Abc123xyz9".toList, "k12345".toList]
    let r' := ofSecrets ["ghp_z90z9".toList, "k1".toList]
    let longer := ofSecrets ["ghp_Abc123xyz9".toList, "k123456".toList]
    (r.masked = r'.masked ∧ r.document? .json true = r'.document? .json true)
      ∧ r.masked = longer.masked ∧ r.toJson true ≠ longer.toJson true
      ∧ r.toSarif = longer.toSarif := by
  intro r r' longer
  have hmasked : r.masked = r'.masked := rfl
  have hlonger : r.masked = longer.masked := rfl
  have halike : r.LookAlike r' := .cons (by decide) (.cons (by decide) .nil)
  obtain ⟨hdiffer, -, hsarif, -⟩ := reports_conceal hlonger
  refine ⟨⟨hmasked, ((reports_conceal hmasked).2.1 halike).1⟩, hlonger, fun hjson => ?_, hsarif⟩
  obtain ⟨-, hrest⟩ := List.forall₂_cons.mp (hdiffer.mp hjson)
  exact absurd (List.forall₂_cons.mp hrest).1 (by decide)

end BatchResult

end SecretScan
