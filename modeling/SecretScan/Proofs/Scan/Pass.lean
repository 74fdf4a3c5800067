import SecretScan.Scan.Unit

/-!
# The pass of a rule

`CompiledRule.passFrom` searches content from left to right. `Sweeps` says what a pass is, with one
rule for each thing that can happen at an offset; there is exactly one pass from every offset
(`sweeps_passFrom`, `passFrom_of_sweeps`). Facts about passes go by induction over it, and never
look at how the loop is written.

Whatever a pass finds is admitted by its rule (`Sweeps.admitted`): it is a span of the content that
the search gave and that passes both gates. That is all that later stages know of a match.
-/

namespace SecretScan

/-- `Sweeps r options content pos p`: from the offset `pos` on, the rule makes the pass `p`. -/
inductive Sweeps (r : CompiledRule) (options : Options) (content : Text) : Nat → Pass → Prop where
  | beyond {pos : Nat} : ¬ pos ≤ content.length → Sweeps r options content pos ⟨[], .exhausted⟩
  | nothing {pos : Nat} : pos ≤ content.length → r.matcher.search content pos = .nothing →
      Sweeps r options content pos ⟨[], .exhausted⟩
  | cancel {pos : Nat} : pos ≤ content.length → r.matcher.search content pos = .cancel →
      Sweeps r options content pos ⟨[], .cancelled⟩
  | fault {pos : Nat} {e : Raised} : pos ≤ content.length →
      r.matcher.search content pos = .fault e → Sweeps r options content pos ⟨[], .failed e⟩
  | empty {pos stop : Nat} {p : Pass} : pos ≤ content.length →
      r.matcher.search content pos = .found stop stop → Sweeps r options content (stop + 1) p →
      Sweeps r options content pos p
  | failed {pos start stop : Nat} {e : Raised} : pos ≤ content.length →
      r.matcher.search content pos = .found start stop → start ≠ stop →
      r.admit options (content.slice start stop) start = .error e →
      Sweeps r options content pos ⟨[], .failed e⟩
  | found {pos start stop : Nat} {admitted : Option Match} {p : Pass} : pos ≤ content.length →
      r.matcher.search content pos = .found start stop → start ≠ stop →
      r.admit options (content.slice start stop) start = .ok admitted →
      Sweeps r options content stop p →
      Sweeps r options content pos ⟨admitted.toList ++ p.found, p.ending⟩

variable {r : CompiledRule} {options : Options} {content : Text}

theorem sweeps_passFrom (r : CompiledRule) (options : Options) (content : Text) (pos : Nat) :
    Sweeps r options content pos (r.passFrom options content pos) := by
  fun_induction CompiledRule.passFrom r options content pos with
  | case1 pos hin hreply => exact .nothing hin hreply
  | case2 pos hin hreply => exact .cancel hin hreply
  | case3 pos hin e hreply => exact .fault hin hreply
  | case4 pos hin stop hreply ih => exact .empty hin hreply ih
  | case5 pos hin start stop hreply hne e hfault => exact .failed hin hreply hne hfault
  | case6 pos hin start stop hreply hne found hfound rest ih =>
      exact .found hin hreply hne hfound ih
  | case7 pos hout => exact .beyond hout

/-- There is only one pass from an offset. -/
theorem passFrom_of_sweeps {pos : Nat} {p : Pass} (h : Sweeps r options content pos p) :
    r.passFrom options content pos = p := by
  induction h with
  -- each rule fixes the answer of the search, and with it the branch that is taken
  | beyond hout => rw [CompiledRule.passFrom, dif_neg hout]
  | nothing hin hreply => rw [CompiledRule.passFrom, dif_pos hin]; split <;> simp_all
  | cancel hin hreply => rw [CompiledRule.passFrom, dif_pos hin]; split <;> simp_all
  | fault hin hreply => rw [CompiledRule.passFrom, dif_pos hin]; split <;> simp_all
  | empty hin hreply _ ih => rw [CompiledRule.passFrom, dif_pos hin]; split <;> simp_all
  | failed hin hreply hne hfault => rw [CompiledRule.passFrom, dif_pos hin]; split <;> simp_all
  | found hin hreply hne hfound _ ih => rw [CompiledRule.passFrom, dif_pos hin]; split <;> simp_all

/-! ## What is admitted -/

/-- Whether a text with an entropy passes both gates of a rule. -/
def CompiledRule.passes (r : CompiledRule) (options : Options) (t : Text)
    (entropy : Option Float) : Bool :=
  !belowThreshold entropy (largerThreshold r.rule.minEntropy options.minEntropy)
    && requirementGate options r.rule.requirements t ≠ .reject

/-- The match of a rule that stands for a text and its entropy. -/
def CompiledRule.matchOf (r : CompiledRule) (options : Options) (t : Text) (offset : Nat)
    (entropy : Option Float) : Match :=
  { ruleId := r.id, ruleName := r.rule.name, confidence := r.rule.confidence, text := t, offset,
    entropy, ignored := requirementGate options r.rule.requirements t = .mark }

/-- A match is admitted if its text can be measured and passes both gates. -/
theorem CompiledRule.admit_eq (r : CompiledRule) (options : Options) (t : Text) (offset : Nat) :
    r.admit options t offset = (options.measured t).map fun entropy =>
      if r.passes options t entropy then some (r.matchOf options t offset entropy) else none := by
  unfold CompiledRule.admit passes matchOf
  cases options.measured t with
  | error f => rfl
  | ok entropy =>
      simp only [bind, Except.bind, pure, Except.pure, Except.map]
      cases belowThreshold entropy (largerThreshold r.rule.minEntropy options.minEntropy) with
      | true => rfl
      | false => cases requirementGate options r.rule.requirements t <;> rfl

/-- If requirements are checked and a text is not rejected, it meets them, or it is marked. -/
theorem requirementGate_of_ne_reject {requirements : Option Requirements} {t : Text}
    {q : Requirements} (h : requirementGate options requirements t ≠ .reject)
    (hcheck : options.checkRequirements = true) (hq : requirements = some q) :
    q.check t = .passed
      ∨ (∃ term, q.check t = .ignored term) ∧ requirementGate options requirements t = .mark
        ∧ options.keepIgnored = true := by
  unfold requirementGate at h ⊢
  simp only [hcheck, hq] at h ⊢
  cases hv : q.check t with
  | passed => exact .inl rfl
  | short kind least found => exact absurd (by simp only [hv]) h
  | ignored term =>
      cases hkeep : options.keepIgnored with
      | false => exact absurd (by simp [hv, hkeep]) h
      | true => exact .inr ⟨⟨term, rfl⟩, by simp, rfl⟩

/-- What is known of a match that a rule admits. -/
structure Admitted (r : CompiledRule) (options : Options) (content : Text) (m : Match) : Prop where
  /-- The match carries the identifier of the rule. -/
  ruleId : m.ruleId = r.id
  /-- It carries the confidence of the rule. -/
  confidence : m.confidence = r.rule.confidence
  /-- It is what a search of the rule found. -/
  searched : ∃ pos ≤ content.length, r.matcher.search content pos = .found m.offset m.stop
  /-- It is not empty. -/
  nonempty : m.offset < m.stop
  /-- It lies in the content. -/
  inside : m.stop ≤ content.length
  /-- Its text is what stands there. -/
  text : content.slice m.offset m.stop = m.text
  /-- Its entropy is that of the text, if entropy is measured. -/
  measured : options.measured m.text = .ok m.entropy
  /-- Its entropy is not below the threshold, if there are both. -/
  threshold : ∀ entropy least, m.entropy = some entropy →
    largerThreshold r.rule.minEntropy options.minEntropy = some least → ¬ entropy < least
  /-- If requirements are checked, the text meets those of the rule. Otherwise it holds a term that
  marks it as an example, and such matches are kept and marked. -/
  requirements : options.checkRequirements = true → ∀ q, r.rule.requirements = some q →
    q.check m.text = .passed
      ∨ (∃ term, q.check m.text = .ignored term) ∧ m.ignored = true ∧ options.keepIgnored = true

/-- The two gates, seen from a match that passed them. -/
theorem CompiledRule.admitted_of_admit_eq {pos start stop : Nat} {m : Match}
    (hin : pos ≤ content.length) (hreply : r.matcher.search content pos = .found start stop)
    (hne : start ≠ stop) (h : r.admit options (content.slice start stop) start = .ok (some m)) :
    Admitted r options content m := by
  obtain ⟨-, hle, hstop⟩ := r.matcher.bounds hin hreply
  rw [admit_eq] at h
  cases hmeasured : options.measured (content.slice start stop) with
  | error f => rw [hmeasured] at h; cases h
  | ok entropy =>
      rw [hmeasured, Except.map, Except.ok.injEq, Option.ite_none_right_eq_some] at h
      obtain ⟨hpasses, h⟩ := h
      obtain rfl := Option.some.inj h
      have hend : (r.matchOf options (content.slice start stop) start entropy).stop = stop := by
        change start + (content.slice start stop).length = stop
        rw [Text.length_slice hstop]
        omega
      obtain ⟨hthreshold, hgate⟩ : belowThreshold entropy
          (largerThreshold r.rule.minEntropy options.minEntropy) = false
            ∧ requirementGate options r.rule.requirements (content.slice start stop) ≠ .reject := by
        simpa [passes] using hpasses
      exact
        { ruleId := rfl
          confidence := rfl
          searched := ⟨pos, hin, by rw [hend]; exact hreply⟩
          nonempty := by rw [hend]; exact Nat.lt_of_le_of_ne hle hne
          inside := by rw [hend]; exact hstop
          text := congrArg (content.slice start) hend
          measured := hmeasured
          threshold := by
            rintro e least rfl hleast
            simpa [hleast, belowThreshold] using hthreshold
          requirements := fun hcheck q hq =>
            (requirementGate_of_ne_reject hgate hcheck hq).imp_right fun hignored =>
              ⟨hignored.1, decide_eq_true hignored.2.1, hignored.2.2⟩ }

/-- **Whatever a pass finds is admitted by its rule.** -/
theorem Sweeps.admitted {pos : Nat} {p : Pass} (h : Sweeps r options content pos p) :
    ∀ m ∈ p.found, Admitted r options content m := by
  induction h with
  | beyond _ => exact List.forall_mem_nil _
  | nothing _ _ => exact List.forall_mem_nil _
  | cancel _ _ => exact List.forall_mem_nil _
  | fault _ _ => exact List.forall_mem_nil _
  | empty _ _ _ ih => exact ih
  | failed _ _ _ _ => exact List.forall_mem_nil _
  | @found _ _ _ admitted _ hin hreply hne hresult _ ih =>
      refine List.forall_mem_append.mpr ⟨fun m hm => ?_, ih⟩
      rw [Option.mem_toList] at hm
      exact CompiledRule.admitted_of_admit_eq hin hreply hne (hm ▸ hresult)

end SecretScan
