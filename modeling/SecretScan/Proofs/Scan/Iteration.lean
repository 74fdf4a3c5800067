import Mathlib.Logic.Function.Iterate
import SecretScan.Proofs.Failure
import SecretScan.Proofs.Scan.Unit

/-!
# The loop of a pass

A pass is a loop: each turn makes one search and goes on behind the span that it gave. The loop is
written as a recursion, so this module says twice more what it does, and proves that all three
agree.

* `CompiledRule.turn` is one turn, as a step from state to state. Every turn moves to the right, and
  an empty span moves one further, so the loop is over after at most one search more than the content
  has characters (`iterate_turn`).
* `Matcher.replies` are the answers of the matcher alone, with no rule in sight. What the rule makes
  of them decides what the unit finds (`Sweeps.judged`), but not where the next search begins: a span
  that is rejected has been consumed all the same.
-/

namespace SecretScan

/-! ## One turn after the other -/

/-- The state of the loop between two searches. -/
inductive PassState where
  /-- The next search begins at `pos`. -/
  | searching (pos : Nat) (found : List Match)
  /-- The loop is over. -/
  | ended (p : Pass)

/-- The loop goes on at an offset, unless that lies behind the content. -/
def PassState.resume (content : Text) (pos : Nat) (found : List Match) : PassState :=
  if pos ≤ content.length then .searching pos found else .ended ⟨found, .exhausted⟩

/-- One turn of the loop, with one search. -/
def CompiledRule.turn (r : CompiledRule) (options : Options) (content : Text) :
    PassState → PassState
  | .ended p => .ended p
  | .searching pos found =>
    match r.matcher.search content pos with
    | .nothing => .ended ⟨found, .exhausted⟩
    | .cancel => .ended ⟨found, .cancelled⟩
    | .fault e => .ended ⟨found, .failed e⟩
    | .found start stop =>
      if start = stop then .resume content (stop + 1) found
      else
        match r.admit options (content.slice start stop) start with
        | .error e => .ended ⟨found, .failed e⟩
        | .ok admitted => .resume content stop (found ++ admitted.toList)

variable {r : CompiledRule} {options : Options} {content : Text}

theorem resume_of_inside {pos : Nat} (h : pos ≤ content.length) (found : List Match) :
    PassState.resume content pos found = .searching pos found :=
  if_pos h

/-- What is over stays over. -/
theorem iterate_turn_ended (p : Pass) (n : Nat) :
    (r.turn options content)^[n] (.ended p) = .ended p :=
  Function.iterate_fixed rfl n

/-- A turn that ends the loop. -/
theorem iterate_turn_of_ends {pos n : Nat} {found : List Match} {p : Pass} (hn : 0 < n)
    (h : r.turn options content (.searching pos found) = .ended p) :
    (r.turn options content)^[n] (.searching pos found) = .ended p := by
  obtain ⟨k, rfl⟩ := Nat.exists_eq_succ_of_ne_zero (by omega : n ≠ 0)
  rw [Function.iterate_succ_apply, h, iterate_turn_ended]

/-- **The loop makes the pass**, with no more searches than there are offsets left. -/
theorem iterate_turn {pos n : Nat} {p : Pass} (h : Sweeps r options content pos p)
    (found : List Match) (hn : content.length + 1 - pos ≤ n) :
    (r.turn options content)^[n] (PassState.resume content pos found)
      = .ended ⟨found ++ p.found, p.ending⟩ := by
  induction h generalizing found n with
  | beyond hout =>
      rw [PassState.resume, if_neg hout, iterate_turn_ended, List.append_nil]
  | nothing hin hreply | cancel hin hreply | fault hin hreply =>
      rw [resume_of_inside hin, List.append_nil]
      exact iterate_turn_of_ends (by omega) (by simp only [CompiledRule.turn, hreply])
  | @empty pos stop p hin hreply _ ih =>
      obtain ⟨hle, -, -⟩ := r.matcher.bounds hin hreply
      have hturn : r.turn options content (.searching pos found)
          = .resume content (stop + 1) found := by
        simp only [CompiledRule.turn, hreply, if_pos]
      obtain ⟨k, rfl⟩ := Nat.exists_eq_succ_of_ne_zero (by omega : n ≠ 0)
      rw [resume_of_inside hin, Function.iterate_succ_apply, hturn]
      exact ih found (by omega)
  | failed hin hreply hne hadmit =>
      rw [resume_of_inside hin, List.append_nil]
      exact iterate_turn_of_ends (by omega)
        (by simp only [CompiledRule.turn, hreply, if_neg hne, hadmit])
  | @found pos start stop admitted p hin hreply hne hadmit _ ih =>
      obtain ⟨hle, hspan, -⟩ := r.matcher.bounds hin hreply
      have hturn : r.turn options content (.searching pos found)
          = .resume content stop (found ++ admitted.toList) := by
        simp only [CompiledRule.turn, hreply, if_neg hne, hadmit]
      obtain ⟨k, rfl⟩ := Nat.exists_eq_succ_of_ne_zero (by omega : n ≠ 0)
      rw [resume_of_inside hin, Function.iterate_succ_apply, hturn, ← List.append_assoc]
      exact ih (found ++ admitted.toList) (by omega)

/-! ## The answers of a matcher -/

/-- Where the search goes on behind a span: at its end, or one further if it is empty. -/
def behindSpan (start stop : Nat) : Nat :=
  if start = stop then stop + 1 else stop

theorem lt_behindSpan {start stop : Nat} (h : start ≤ stop) :
    start < behindSpan start stop ∧ stop ≤ behindSpan start stop := by
  unfold behindSpan
  split <;> omega

/-- The answers of a matcher from an offset on. Behind a span the search goes on; any other answer
is the last one. -/
def Matcher.replies (m : Matcher) (content : Text) (pos : Nat) : List Reply :=
  if _inside : pos ≤ content.length then
    match _reply : m.search content pos with
    | .found start stop =>
      .found start stop :: m.replies content (behindSpan start stop)
    | reply => [reply]
  else []
termination_by content.length + 1 - pos
decreasing_by
  have hbounds := m.bounds _inside _reply
  have hbehind := lt_behindSpan hbounds.2.1
  omega

/-- The span of an answer, if there is one with text in it. -/
def Reply.span? : Reply → Option (Nat × Nat)
  | .found start stop => if start = stop then none else some (start, stop)
  | _ => none

/-- What a rule makes of an answer: a match, nothing, or a failure. -/
def CompiledRule.judge (r : CompiledRule) (options : Options) (content : Text) :
    Reply → Except Raised (Option Match)
  | .nothing => .ok none
  | .cancel => .ok none
  | .fault e => .error e
  | .found start stop =>
    if start = stop then .ok none else r.admit options (content.slice start stop) start

theorem Matcher.replies_of_beyond {m : Matcher} {pos : Nat} (h : ¬ pos ≤ content.length) :
    m.replies content pos = [] := by
  rw [replies, dif_neg h]

theorem Matcher.replies_of_last {m : Matcher} {pos : Nat} {reply : Reply}
    (h : pos ≤ content.length) (hreply : m.search content pos = reply)
    (hlast : ∀ start stop, reply ≠ .found start stop) : m.replies content pos = [reply] := by
  rw [replies, dif_pos h]
  split
  · next start stop hfound => exact absurd (hreply.symm.trans hfound) (hlast start stop)
  · rw [hreply]

theorem Matcher.replies_of_found {m : Matcher} {pos start stop : Nat} (h : pos ≤ content.length)
    (hreply : m.search content pos = .found start stop) :
    m.replies content pos = .found start stop :: m.replies content (behindSpan start stop) := by
  rw [replies, dif_pos h]
  split
  · next start' stop' hfound =>
      rw [hreply] at hfound
      cases hfound
      rfl
  · next hother => exact absurd hreply (hother start stop)

/-- There are no more answers than offsets. -/
theorem Matcher.length_replies_le (m : Matcher) (content : Text) (pos : Nat) :
    (m.replies content pos).length ≤ content.length + 1 - pos := by
  fun_induction Matcher.replies m content pos with
  | case1 pos hin start stop hreply ih =>
      have hbounds := m.bounds hin hreply
      have hbehind := lt_behindSpan hbounds.2.1
      rw [List.length_cons]
      omega
  | case2 pos hin hother =>
      rw [List.length_singleton]
      omega
  | case3 pos hout => exact Nat.zero_le _

theorem Reply.span?_of_last {reply : Reply} (h : ∀ start stop, reply ≠ .found start stop) :
    reply.span? = none := by
  cases reply with
  | found start stop => exact absurd rfl (h start stop)
  | nothing => rfl
  | fault e => rfl
  | cancel => rfl

/-- The spans lie in the content, from left to right, and no two of them overlap. -/
theorem Matcher.spans_replies (m : Matcher) (content : Text) (pos : Nat) :
    (∀ s ∈ (m.replies content pos).filterMap Reply.span?,
        pos ≤ s.1 ∧ s.1 < s.2 ∧ s.2 ≤ content.length)
      ∧ ((m.replies content pos).filterMap Reply.span?).Pairwise fun s s' => s.2 ≤ s'.1 := by
  fun_induction Matcher.replies m content pos with
  | case1 pos hin start stop hreply ih =>
      obtain ⟨hle, hspan, hstop⟩ := m.bounds hin hreply
      obtain ⟨hbounds, hpairwise⟩ := ih
      have hbehind := lt_behindSpan hspan
      -- what comes later begins at the end of this span or behind it
      have hlater : ∀ s ∈ (m.replies content (behindSpan start stop)).filterMap Reply.span?,
          stop ≤ s.1 ∧ s.1 < s.2 ∧ s.2 ≤ content.length := by
        intro s hs
        have := hbounds s hs
        omega
      by_cases hempty : start = stop
      · have hnone : Reply.span? (.found start stop) = none := if_pos hempty
        rw [List.filterMap_cons_none hnone]
        refine ⟨fun s hs => ?_, hpairwise⟩
        have := hlater s hs
        omega
      · have hsome : Reply.span? (.found start stop) = some (start, stop) := if_neg hempty
        rw [List.filterMap_cons_some hsome]
        refine ⟨List.forall_mem_cons.mpr ⟨?_, fun s hs => ?_⟩, ?_⟩
        · exact ⟨hle, by omega, hstop⟩
        · have := hlater s hs
          omega
        · exact List.pairwise_cons.mpr ⟨fun s hs => (hlater s hs).1, hpairwise⟩
  | case2 pos hin hother =>
      rw [List.filterMap_cons_none (Reply.span?_of_last hother)]
      exact ⟨List.forall_mem_nil _, List.Pairwise.nil⟩
  | case3 pos hout => exact ⟨List.forall_mem_nil _, List.Pairwise.nil⟩

/-! ## What the rule makes of the answers -/

/-- **A pass judges the answers of its matcher.** It finds the matches that the rule makes of them,
or it ends with the first failure. -/
theorem Sweeps.judged {pos : Nat} {p : Pass} (h : Sweeps r options content pos p) :
    (∃ judged, (r.matcher.replies content pos).mapM (r.judge options content) = .ok judged
        ∧ p.found = judged.reduceOption ∧ ∀ e, p.ending ≠ .failed e)
      ∨ ∃ e, (r.matcher.replies content pos).mapM (r.judge options content) = .error e
        ∧ p.ending = .failed e := by
  induction h with
  | beyond hout =>
      rw [Matcher.replies_of_beyond hout]
      exact .inl ⟨[], rfl, rfl, nofun⟩
  | nothing hin hreply | cancel hin hreply =>
      rw [Matcher.replies_of_last hin hreply nofun]
      exact .inl ⟨[none], rfl, rfl, nofun⟩
  | @fault pos e hin hreply =>
      rw [Matcher.replies_of_last hin hreply nofun]
      exact .inr ⟨e, rfl, rfl⟩
  | @empty pos stop p hin hreply _ ih =>
      have hjudge : r.judge options content (.found stop stop) = .ok none := if_pos rfl
      rw [Matcher.replies_of_found hin hreply, behindSpan, if_pos rfl, mapM_cons_ok hjudge]
      rcases ih with ⟨judged, hjudged, hfound, hending⟩ | ⟨e, herror, hending⟩
      · exact .inl ⟨none :: judged, by rw [hjudged]; rfl, hfound, hending⟩
      · exact .inr ⟨e, by rw [herror]; rfl, hending⟩
  | @failed pos start stop e hin hreply hne hadmit =>
      have hjudge : r.judge options content (.found start stop) = .error e := by
        rw [CompiledRule.judge, if_neg hne, hadmit]
      rw [Matcher.replies_of_found hin hreply, mapM_cons_error hjudge]
      exact .inr ⟨e, rfl, rfl⟩
  | @found pos start stop admitted p hin hreply hne hadmit _ ih =>
      have hjudge : r.judge options content (.found start stop) = .ok admitted := by
        rw [CompiledRule.judge, if_neg hne, hadmit]
      rw [Matcher.replies_of_found hin hreply, behindSpan, if_neg hne, mapM_cons_ok hjudge]
      rcases ih with ⟨judged, hjudged, hfound, hending⟩ | ⟨e, herror, hending⟩
      · refine .inl ⟨admitted :: judged, by rw [hjudged]; rfl, ?_, hending⟩
        rw [hfound]
        cases admitted <;> rfl
      · exact .inr ⟨e, by rw [herror]; rfl, hending⟩

/-- The span of a match. -/
def Match.span (m : Match) : Nat × Nat :=
  (m.offset, m.stop)

/-- A match that a rule admits has the span of the answer. -/
theorem CompiledRule.span_of_admit {pos start stop : Nat} {m : Match} (hin : pos ≤ content.length)
    (hreply : r.matcher.search content pos = .found start stop)
    (h : r.admit options (content.slice start stop) start = .ok (some m)) :
    m.span = (start, stop) := by
  obtain ⟨-, hle, hstop⟩ := r.matcher.bounds hin hreply
  rw [admit_eq] at h
  cases hmeasured : options.measured (content.slice start stop) with
  | error e => rw [hmeasured] at h; cases h
  | ok entropy =>
      rw [hmeasured, Except.map, Except.ok.injEq, Option.ite_none_right_eq_some] at h
      obtain rfl := Option.some.inj h.2
      show (start, start + (content.slice start stop).length) = (start, stop)
      rw [Text.length_slice hstop]
      congr 1
      omega

/-- The matches of a pass stand where its matcher found spans, in the same order. -/
theorem Sweeps.spans_sublist {pos : Nat} {p : Pass} (h : Sweeps r options content pos p) :
    (p.found.map Match.span).Sublist ((r.matcher.replies content pos).filterMap Reply.span?) := by
  induction h with
  | beyond | nothing | cancel | fault | failed => exact List.nil_sublist _
  | @empty pos stop p hin hreply _ ih =>
      have hnone : Reply.span? (.found stop stop) = none := if_pos rfl
      rw [Matcher.replies_of_found hin hreply, behindSpan, if_pos rfl,
        List.filterMap_cons_none hnone]
      exact ih
  | @found pos start stop admitted p hin hreply hne hadmit _ ih =>
      have hsome : Reply.span? (.found start stop) = some (start, stop) := if_neg hne
      rw [Matcher.replies_of_found hin hreply, behindSpan, if_neg hne,
        List.filterMap_cons_some hsome]
      cases admitted with
      | none => exact ih.cons _
      | some m =>
          have hspan := CompiledRule.span_of_admit hin hreply hadmit
          rw [Option.toList_some, List.singleton_append, List.map_cons, hspan]
          exact ih.cons_cons _

/-! ## Units -/

/-- What a unit records of a failure: what kind it is, and the detail. -/
def UnitResult.recorded (u : UnitResult) : Option (String × String) :=
  u.failure.map fun fault => (fault.kind, fault.detail)

theorem Pass.result_of_completed {p : Pass} (h : ∀ e, p.ending ≠ .failed e) (ruleId : String) :
    (p.result ruleId).found = p.found ∧ (p.result ruleId).failure = none := by
  unfold result
  split
  · exact ⟨rfl, rfl⟩
  · exact ⟨rfl, rfl⟩
  · next e he => exact absurd he (h e)

theorem Pass.result_of_failed {p : Pass} {e : Raised} (h : p.ending = .failed e)
    (ruleId : String) : p.result ruleId = ⟨ruleId, [], some e.fault, false⟩ := by
  rw [result, h]

/-- The matches of a unit stand where spans were found, whether or not the unit failed. -/
theorem Pass.spans_result_sublist (p : Pass) (ruleId : String) :
    ((p.result ruleId).found.map Match.span).Sublist (p.found.map Match.span) := by
  unfold result
  split
  · exact .refl _
  · exact .refl _
  · exact List.nil_sublist _

/--
**A unit is the iteration of its matcher.**

With time left, the loop of a unit is over after at most one search more than the content has
characters. If nothing is raised, its matches are what the rule makes of the spans found one behind
the other. If anything is raised, it has no matches, and the first failure is recorded. The spans do
not depend on the rule; they and with them the matches come from left to right without overlapping.
-/
theorem CompiledRule.apply_iterates (r : CompiledRule) (options : Options) (content : Text)
    (htime : ¬ options.timeout ≤ 0) :
    (∃ p, (r.turn options content)^[content.length + 1] (.searching 0 []) = .ended p
        ∧ r.apply options content = p.result r.id)
      ∧ (r.matcher.replies content 0).length ≤ content.length + 1
      ∧ (∀ judged, (r.matcher.replies content 0).mapM (r.judge options content) = .ok judged →
          (r.apply options content).found = judged.reduceOption
            ∧ (r.apply options content).recorded = none)
      ∧ (∀ e, (r.matcher.replies content 0).mapM (r.judge options content) = .error e →
          (r.apply options content).found = []
            ∧ (r.apply options content).recorded = some (match e.fault with
              | .timeout => ("timeout", "timed out")
              | .error kind => ("error", kind)))
      ∧ ((r.matcher.replies content 0).filterMap Reply.span?).Pairwise (fun s s' => s.2 ≤ s'.1)
      ∧ ((r.apply options content).found.map Match.span).Sublist
          ((r.matcher.replies content 0).filterMap Reply.span?)
      ∧ (r.apply options content).found.Pairwise
          (fun m m' => m.offset < m'.offset ∧ m.stop ≤ m'.offset)
      ∧ ∀ m ∈ (r.apply options content).found, m.offset < m.stop ∧ m.stop ≤ content.length
          ∧ content.slice m.offset m.stop = m.text := by
  have hsweeps := sweeps_passFrom r options content 0
  have hunit : r.apply options content = (r.passFrom options content 0).result r.id :=
    if_neg htime
  generalize r.passFrom options content 0 = p at hsweeps hunit
  have hloop := iterate_turn hsweeps [] (Nat.le_refl _)
  rw [resume_of_inside (Nat.zero_le _), List.nil_append] at hloop
  have hspans := (r.matcher.spans_replies content 0).2
  have hmatches : ((r.apply options content).found.map Match.span).Sublist
      ((r.matcher.replies content 0).filterMap Reply.span?) := by
    rw [hunit]
    exact (p.spans_result_sublist r.id).trans hsweeps.spans_sublist
  have hadmitted : ∀ m ∈ (r.apply options content).found, Admitted r options content m := by
    rw [hunit]
    exact fun m hm => hsweeps.admitted m (p.found_result_subset r.id hm)
  refine ⟨⟨p, hloop, hunit⟩, r.matcher.length_replies_le content 0, fun judged hjudged => ?_,
    fun e herror => ?_, hspans, hmatches, ?_, fun m hm => ?_⟩
  · rcases hsweeps.judged with ⟨judged', hjudged', hfound, hending⟩ | ⟨e, herror, -⟩
    · obtain rfl := Except.ok.inj (hjudged.symm.trans hjudged')
      obtain ⟨hfound', hfailure⟩ := Pass.result_of_completed hending r.id
      rw [UnitResult.recorded, hunit, hfound', hfailure]
      exact ⟨hfound, rfl⟩
    · exact nomatch hjudged.symm.trans herror
  · rcases hsweeps.judged with ⟨judged, hjudged, -, -⟩ | ⟨e', herror', hending⟩
    · exact nomatch hjudged.symm.trans herror
    · obtain rfl := Except.error.inj (herror.symm.trans herror')
      rw [UnitResult.recorded, hunit, Pass.result_of_failed hending]
      refine ⟨rfl, ?_⟩
      cases e.fault with
      | timeout => rfl
      | error kind => rfl
  · -- the spans of the matches are in order, and none of them is empty
    have hordered := List.pairwise_map.mp (hspans.sublist hmatches)
    refine hordered.imp_of_mem fun hm _ hstop => ?_
    exact ⟨Nat.lt_of_lt_of_le (hadmitted _ hm).nonempty hstop, hstop⟩
  · exact ⟨(hadmitted m hm).nonempty, (hadmitted m hm).inside, (hadmitted m hm).text⟩

/-- Digits are found between empty spans, and the single one is rejected. -/
theorem CompiledRule.apply_iterates_digits :
    let options : Options := { Options.default with measure := none }
    let numbers : Rule := { Rule.ofPattern "numbers" "Numbers" "[0-9]*".toList with
      requirements := some { Requirements.free with minDigits := some 2 } }
    let content := "a12 b3".toList
    ∃ r ∈ (compileAll [numbers]).1.rules.entries, ¬ options.timeout ≤ 0
      ∧ r.matcher.replies content 0
        = [.found 0 0, .found 1 3, .found 3 3, .found 4 4, .found 5 6, .found 6 6]
      ∧ (∃ p, (r.turn options content)^[7] (.searching 0 []) = .ended p
          ∧ r.apply options content = p.result r.id)
      ∧ (r.apply options content).found.map Match.span = [(1, 3)]
      ∧ ((r.apply options content).found.map Match.span).Sublist [(1, 3), (5, 6)] := by
  intro options numbers content
  have hrules : (compileAll [numbers]).1.rules.entries ≠ [] := by decide +kernel
  have htime : ¬ options.timeout ≤ 0 := by decide +kernel
  have hreplies : ∀ r ∈ (compileAll [numbers]).1.rules.entries, r.matcher.replies content 0
      = [.found 0 0, .found 1 3, .found 3 3, .found 4 4, .found 5 6, .found 6 6] := by
    decide +kernel
  have hfound : ∀ r ∈ (compileAll [numbers]).1.rules.entries,
      (r.apply options content).found.map Match.span = [(1, 3)] := by
    decide +kernel
  obtain ⟨r, hr⟩ := List.exists_mem_of_ne_nil _ hrules
  obtain ⟨hloop, -, -, -, -, hsublist, -⟩ := CompiledRule.apply_iterates r options content htime
  rw [hreplies r hr] at hsublist
  exact ⟨r, hr, htime, hreplies r hr, hloop, hfound r hr, hsublist⟩

end SecretScan
