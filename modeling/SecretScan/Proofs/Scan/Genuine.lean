import SecretScan.Proofs.Finding.Neighbourhood
import SecretScan.Proofs.Scan.Account

/-!
# Findings are genuine

A finding points into the content of an item. What it says about the place is true: the text stands
there, the line is the line there, and the context is what stands around it. It was found by a rule
of the set and passed both gates of that rule, nothing speaks against it, and its score is high
enough. `Genuine` lists these facts.

They are known stage by stage. A match is admitted by its rule (`Admitted`); a candidate is a match
to which nothing is objected; a batch reports candidates only, and changes nothing about them.
-/

namespace SecretScan

/-! ## Genuine findings -/

/-- What is true of a finding that rule `r` made in `item`. -/
structure Genuine (settings : BatchSettings) (item : Item) (r : CompiledRule) (f : Finding) : Prop
    extends Admitted r settings.options item.content f.found where
  /-- The location is that of the item. -/
  location : f.location = item.location
  /-- The line is counted from 1. -/
  line : f.line = 1 + (item.content.take f.found.offset).count '\n'
  /-- The context is what stands up to a hundred characters around the match. -/
  context : f.context = item.content.slice (f.found.offset - 100)
    (min item.content.length (f.found.stop + 100))
  /-- The matched text stands in the context, after at most a hundred characters. -/
  excerpt : f.context.slice (min f.found.offset 100)
    (min f.found.offset 100 + f.found.text.length) = f.found.text
  /-- The score is high enough. -/
  minScore_le : settings.minScore ≤ f.score.val
  /-- No score is higher than 100. -/
  score_le : f.score.val ≤ 100
  /-- The match does not look benign. -/
  benign : benignReason? item.content f.found.offset f.found.text = none

/-- An admitted match to which nothing is objected makes a genuine finding. -/
theorem Admitted.genuine {settings : BatchSettings} {item : Item} {r : CompiledRule} {m : Match}
    (h : Admitted r settings.options item.content m)
    (hobjection : m.objection? item.content settings.minScore = none) :
    Genuine settings item r (m.finding item.content item.location) := by
  obtain ⟨hbenign, hscore⟩ := Match.objection?_eq_none_iff.mp hobjection
  refine { h with
    location := rfl
    line := ?_
    context := contextOf_eq item.content m.offset m.text.length
    excerpt := (slice_contextOf h.inside).trans h.text
    minScore_le := hscore
    score_le := (m.finding item.content item.location).score.property
    benign := hbenign }
  change ((lineNumber item.content m.offset : Nat) : Int) = _
  rw [lineNumber, Nat.add_comm]
  rfl

/-- All candidates of an item are genuine. -/
theorem genuine_of_mem_candidatesOf {settings : BatchSettings} {rules : List CompiledRule}
    {item : Item} {units : List UnitResult}
    (hunits : units ⊆ allUnits settings.options item.content rules) :
    ∀ f ∈ candidatesOf settings.minScore item units, ∃ r ∈ rules, Genuine settings item r f := by
  intro f hf
  rw [candidatesOf, triage_candidates] at hf
  obtain ⟨m, hm, rfl⟩ := List.mem_map.mp hf
  obtain ⟨hfound, hobjection⟩ := List.mem_filter.mp hm
  obtain ⟨u, hu, hmu⟩ := List.mem_flatMap.mp hfound
  obtain ⟨r, hr, rfl⟩ := List.mem_map.mp (hunits hu)
  exact ⟨r, hr, (admitted_of_mem_unitOf m hmu).genuine (Option.isNone_iff_eq_none.mp hobjection)⟩

/--
**Findings are genuine.**

Every batch has a result, whatever the rules search for, wherever the items come from and whether or
not the batch is told to stop. Each of its findings is true of one of the items and one of the
rules.
-/
theorem scanBatch_genuine (settings : BatchSettings) (rules : List CompiledRule)
    (items : List Item) :
    ∃ r, (scanBatch settings rules items).1 = .ok r
      ∧ ∀ f ∈ r.findings, ∃ item ∈ items, ∃ rule ∈ rules, Genuine settings item rule f := by
  obtain ⟨r, hr, account⟩ := exists_account settings rules items
  obtain ⟨d, hd, hfindings⟩ := account.findings
  refine ⟨r, hr, fun f hf => ?_⟩
  rw [hfindings] at hf
  obtain ⟨x, hx, hf⟩ := List.mem_flatMap.mp (hd.kept_sublist.subset hf)
  have hunits : x.2.units ⊆ allUnits settings.options x.1.content rules :=
    (begins_of_mem_runItems hx).units.subset
  have hcandidate : f ∈ candidatesOf settings.minScore x.1 x.2.units := by
    unfold putForward at hf
    split at hf
    · exact hf
    · cases hf
  exact ⟨x.1, mem_of_mem_batchRuns hx, genuine_of_mem_candidatesOf hunits f hcandidate⟩

-- the first of the two keys stands in a comment
example :
    let rules := (compileAll [.ofPattern "key" "Key" "k[0-9]+".toList]).1.rules.entries
    let settings : BatchSettings :=
      { BatchSettings.default with options := { Options.default with measure := none } }
    let items : List Item := [⟨"// k7\na = k12".toList, "a.py".toList⟩]
    ((scanBatch settings rules items).1.toOption.map fun r =>
        r.findings.map fun f => (String.ofList f.found.text, f.found.offset, f.line))
      = some [("k12", 10, 2)] := by
  decide +kernel

end SecretScan
