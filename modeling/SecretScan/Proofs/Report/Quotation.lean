import SecretScan.Command.Rules
import SecretScan.Proofs.Console.Screen

/-!
# What is quoted on a screen

A report for people and a look at rules quote words that are not their own: names of rules,
locations, texts, patterns, what is wrong with a pattern. All of this is shown as markup, like the
labels and numbers around it. These can be left aside: no label matters to what comes behind it, and
there is nothing special in a number. So on every console that reads markup a report comes to its
end exactly if each quotation in it can be read (`Report.emit_shown_eq_none_iff`), and so does a
look at rules (`RuleSet.emit_shown_eq_none_iff`), and in the place of a quotation stands what it is
read as (`quotations_read`). A folder with a name in square brackets is lost from its path, or ends
the report (`quotations_read_brackets`).
-/

namespace SecretScan

open Console Markup

/-! ## Numbers -/

theorem isOrdinary_of_isDigit {t : Text} (h : ∀ c ∈ t, c.isDigit = true) : IsOrdinary t := by
  intro c hc
  have hdigit := h c hc
  refine ⟨?_, ?_, ?_, ?_⟩
  · rintro rfl
    cases hdigit
  · rintro rfl
    cases hdigit
  · rintro rfl
    cases hdigit
  · -- the controls come before the digits
    have hlow : 48 ≤ c.toNat := (Bool.and_eq_true_iff.mp hdigit).1 |> of_decide_eq_true
    simp only [isDropped, List.mem_cons, List.not_mem_nil, or_false, decide_eq_false_iff_not]
    omega

theorem isOrdinary_digits (n : Nat) : IsOrdinary (Decimal.digits n) :=
  isOrdinary_of_isDigit fun _ hc => Nat.isDigit_of_mem_toDigits (by decide) (by decide) hc

theorem isOrdinary_nat (n : Nat) : IsOrdinary (toString n).toList := by
  rw [Nat.toString_eq_repr, Nat.toList_repr]
  exact isOrdinary_digits n

theorem isOrdinary_int (n : Int) : IsOrdinary (toString n).toList := by
  rw [Int.toString_eq_repr]
  cases n with
  | ofNat n => exact isOrdinary_nat n
  | negSucc n =>
      rw [Int.repr, String.toList_append]
      exact isOrdinary_append.mpr ⟨by decide, isOrdinary_nat (n + 1)⟩

theorem isOrdinary_signed {t : Text} (negative : Bool) (h : IsOrdinary t) :
    IsOrdinary (Decimal.signed negative t) := by
  cases negative with
  | false => exact h
  | true => exact List.forall_mem_cons.mpr ⟨by decide, h⟩

theorem isOrdinary_pointed (units places : Nat) : IsOrdinary (Decimal.pointed units places) := by
  have hpadded : IsOrdinary (List.replicate (places + 1 - (Decimal.digits units).length) '0'
      ++ Decimal.digits units) :=
    isOrdinary_append.mpr
      ⟨fun c hc => (List.mem_replicate.mp hc).2 ▸ by decide, isOrdinary_digits units⟩
  have hwhole (n : Nat) := fun c hc => hpadded c (List.mem_of_mem_take (i := n) hc)
  unfold Decimal.pointed
  dsimp only
  split
  · exact hwhole _
  · exact isOrdinary_append.mpr ⟨hwhole _, List.forall_mem_cons.mpr
      ⟨by decide, fun c hc => hpadded c (List.mem_of_mem_drop hc)⟩⟩

theorem isOrdinary_fixed (x : Float) (places : Nat) :
    IsOrdinary (Decimal.fixed x places).toList := by
  rw [Decimal.fixed, String.toList_ofList]
  split
  · decide
  · exact isOrdinary_signed _ (by decide)
  · exact isOrdinary_signed _ (isOrdinary_pointed _ _)

theorem isOrdinary_numberCell (places : Nat) (x : Option Float) :
    IsOrdinary (Report.numberCell places x) := by
  cases x with
  | none => exact List.forall_mem_singleton.mpr (by decide)
  | some x => exact isOrdinary_fixed x places

section

variable {console : Console} (h : console.ReadsMarkup)

include h

theorem Console.ReadsMarkup.accepts_ordinary {t : Text} (ht : IsOrdinary t) : console.Accepts t :=
  h.accepts ht.isLiteral

/-! ## Labels -/

theorem accepts_labelled {front style label back t : Text} (hfront : ∀ c ∈ front, c = ' ')
    (hstyle : IsStyle style) (hlabel : IsLiteral label) (hinert : IsInert label)
    (hback : ∀ c ∈ back, c = ' ') (ht : console.Accepts t) :
    console.Accepts (labelled front style label back ++ t) := by
  obtain ⟨v, hv⟩ := ht
  exact ⟨_, (h.label hfront hstyle hlabel hinert hback).mpr ⟨v, hv, rfl⟩⟩

theorem accepts_styled {style label : Text} (hstyle : IsStyle style) (hlabel : IsLiteral label)
    (hinert : IsInert label) : console.Accepts (styled style label) := by
  have hall : labelled [] style label [] ++ [] = styled style label := by simp [labelled]
  rw [← hall]
  exact accepts_labelled h nofun hstyle hlabel hinert nofun (h.accepts_ordinary nofun)

end

/-! ## Reports -/

/-- What a report quotes for a finding, each with its column: the name of the rule, the location and
the text. -/
def Finding.quotes (redacted : Bool) (f : Finding) : List (Nat × Text) :=
  [(1, f.found.ruleName.toList), (2, f.location), (5, display redacted f.found.text)]

namespace Report

variable {console : Console} {screen : Nat} {redacted summarised : Bool} {r : BatchResult}
  {f : Finding}

/-- All else in the row of a finding is numbers. -/
theorem accepts_findingRow_iff (h : console.ReadsMarkup) :
    (∀ entry ∈ findingRow redacted f, ∃ u, entry.read console = .ok u) ↔
      ∀ q ∈ f.quotes redacted, console.Accepts q.2 := by
  have hline := h.accepts_ordinary (isOrdinary_int f.line)
  have hentropy := h.accepts_ordinary (isOrdinary_numberCell 2 f.found.entropy)
  have hscore : ∃ u, (Entry.plain (scoreCell f.score)).read console = .ok u := ⟨_, rfl⟩
  have hmarkup (t : Text) :
      (∃ u, (Entry.markup t).read console = .ok u) ↔ console.Accepts t := Iff.rfl
  simp only [findingRow, Finding.quotes, List.forall_mem_cons, hscore, hmarkup, hline, hentropy,
    true_and, List.not_mem_nil, false_implies, implies_true, and_true]

theorem isFramed_findingTable (h : console.ReadsMarkup) (redacted : Bool)
    (findings : List Finding) : (findingTable redacted findings).IsFramed console where
  title := h.accepts_ordinary (show IsOrdinary "secretlens findings".toList by decide)
  names column hcolumn := by
    have hall : ∀ column ∈ findingColumns, IsOrdinary column.name := by decide
    exact h.accepts_ordinary (hall column hcolumn)
  full row hrow := by
    obtain ⟨f, -, rfl⟩ := List.mem_map.mp hrow
    rfl

/-- A label with a number behind it. -/
theorem exists_labelled_line (h : console.ReadsMarkup) {lead value : String} (label back : Text)
    (hlead : lead.toList = labelled [] "dim".toList label back) (hlabel : IsLiteral label)
    (hinert : IsInert label) (hback : ∀ c ∈ back, c = ' ') (hvalue : IsOrdinary value.toList) :
    ∃ lines, console.shown screen (lead ++ value).toList = .ok lines := by
  rw [exists_shown_iff, String.toList_append, hlead]
  exact accepts_labelled h nofun (by decide) hlabel hinert hback (h.accepts_ordinary hvalue)

theorem exists_styled_line (h : console.ReadsMarkup) {markup : String} (style label : Text)
    (hmarkup : markup.toList = styled style label) (hstyle : IsStyle style)
    (hlabel : IsOrdinary label) : ∃ lines, console.shown screen markup.toList = .ok lines := by
  rw [exists_shown_iff, hmarkup]
  exact accepts_styled h hstyle hlabel.isLiteral hlabel.isInert

/-- The lines below the findings quote nothing. -/
theorem exists_summary (h : console.ReadsMarkup) (screen : Nat) (r : BatchResult) :
    ∀ s ∈ summary (fun markup => console.shown screen markup.toList) r, ∃ lines, s = .ok lines := by
  unfold summary
  refine List.forall_mem_append.mpr ⟨List.forall_mem_append.mpr ⟨List.forall_mem_append.mpr
    ⟨?counts, ?failures⟩, ?cancelled⟩, ?duration⟩
  case counts =>
    simp only [List.forall_mem_cons, List.not_mem_nil, false_implies, implies_true, and_true]
    exact ⟨exists_shown_iff.mpr (h.accepts_ordinary nofun),
      exists_labelled_line h "Items scanned:".toList [' '] (by decide +kernel) (by decide)
        (by decide) (by simp) (isOrdinary_int _),
      exists_labelled_line h "Findings:".toList "      ".toList (by decide +kernel) (by decide)
        (by decide) (by simp) (isOrdinary_nat _),
      exists_labelled_line h "Suppressed:".toList "    ".toList (by decide +kernel) (by decide)
        (by decide) (by simp) (isOrdinary_nat _)⟩
  case failures =>
    split
    · exact List.forall_mem_nil _
    · rw [List.forall_mem_singleton, String.append_assoc, String.append_assoc]
      refine exists_labelled_line h "Rule failures:".toList [' '] (by decide +kernel) (by decide)
        (by decide) (by simp) ?_
      simp only [String.toList_append, isOrdinary_append]
      exact ⟨isOrdinary_nat _, by decide, ⟨by decide, isOrdinary_nat _⟩, by decide⟩
  case cancelled =>
    split
    · rw [List.forall_mem_singleton]
      exact exists_styled_line h "bold yellow".toList
        "⚠️  Scan cancelled — results are partial.".toList (by decide +kernel) (by decide)
        (by decide +kernel)
    · exact List.forall_mem_nil _
  case duration =>
    rw [List.forall_mem_singleton, String.append_assoc]
    refine exists_labelled_line h "Duration:".toList "      ".toList (by decide +kernel)
      (by decide) (by decide) (by simp) ?_
    rw [String.toList_append]
    exact isOrdinary_append.mpr ⟨isOrdinary_fixed _ _, by decide⟩

theorem accepts_rows_iff (h : console.ReadsMarkup) {findings : List Finding} :
    (∀ row ∈ (findingTable redacted findings).rows, ∀ entry ∈ row,
        ∃ u, entry.read console = .ok u) ↔
      ∀ f ∈ findings, ∀ q ∈ f.quotes redacted, console.Accepts q.2 :=
  List.forall_mem_map.trans (forall₂_congr fun _ _ => accepts_findingRow_iff h)

/-- **A report comes to its end if all that it quotes can be read.** -/
theorem emit_shown_eq_none_iff (h : console.ReadsMarkup) (screen : Nat)
    (redacted summarised : Bool) (r : BatchResult) :
    (emit (r.shown screen redacted summarised console)).2 = none ↔
      ∀ f ∈ r.findings, ∀ q ∈ f.quotes redacted, console.Accepts q.2 := by
  have hempty : ∃ lines, console.shown screen "".toList = .ok lines :=
    exists_shown_iff.mpr (h.accepts_ordinary nofun)
  have hbelow : ∀ s ∈ (if summarised then
      summary (fun markup => console.shown screen markup.toList) r else []),
      ∃ lines, s = .ok lines := by
    split
    · exact exists_summary h screen r
    · exact List.forall_mem_nil _
  rw [emit_eq_none_iff, BatchResult.shown, List.forall_mem_cons, List.forall_mem_cons]
  rw [and_iff_left hbelow, and_iff_right hempty]
  split
  · next hnone =>
      rw [List.isEmpty_iff.mp hnone]
      refine iff_of_true ?_ (List.forall_mem_nil _)
      exact exists_styled_line h "bold green".toList "✅ No secrets detected.".toList
        (by decide +kernel) (by decide) (by decide +kernel)
  · rw [Table.exists_shown_iff (isFramed_findingTable h _ _), accepts_rows_iff h]

/-- What is quoted stands in its column. -/
theorem getElem?_findingRow {q : Nat × Text} (h : q ∈ f.quotes redacted) :
    (findingRow redacted f)[q.1]? = some (.markup q.2) := by
  simp only [Finding.quotes, List.mem_cons, List.not_mem_nil, or_false] at h
  rcases h with rfl | rfl | rfl <;> rfl

theorem getElem?_rows {i : Nat} (h : r.findings[i]? = some f) :
    (findingTable redacted r.findings).rows[i]? = some (findingRow redacted f) := by
  have hmap : (r.findings.map (findingRow redacted))[i]? = some (findingRow redacted f) := by
    rw [List.getElem?_map, h, Option.map_some]
  exact hmap

/-- **A report that comes to its end has drawn a sheet with each quotation in its place.** -/
theorem exists_sheet (h : console.ReadsMarkup) (hsome : r.findings ≠ [])
    (hends : (emit (r.shown screen redacted summarised console)).2 = none) :
    ∃ sheet : Sheet,
      (∀ line ∈ console.draw sheet,
        line <:+: (emit (r.shown screen redacted summarised console)).1)
      ∧ ∀ i f q, r.findings[i]? = some f → q ∈ f.quotes redacted →
        ∃ place, sheet.at? i q.1 = some place ∧ console.Renders q.2 place := by
  have htable : (findingTable redacted r.findings).shown console
      ∈ r.shown screen redacted summarised console := by
    rw [BatchResult.shown, List.isEmpty_eq_false_iff.mpr hsome]
    exact List.mem_cons_of_mem _ List.mem_cons_self
  obtain ⟨lines, hlines⟩ := emit_eq_none_iff.mp hends _ htable
  obtain ⟨sheet, hread, hdraw⟩ := map_eq_ok.mp hlines
  subst hdraw
  refine ⟨sheet, fun line hline => infix_emit hends (hlines ▸ htable) hline,
    fun i f q hf hq => ?_⟩
  obtain ⟨place, hplace, hof⟩ := Table.at?_of_read (isFramed_findingTable h _ _) hread
    (getElem?_rows hf) (getElem?_findingRow hq)
  exact ⟨place, hplace, h.renders hof⟩

end Report

/-! ## Rules -/

/-- What a look at rules quotes for a usable rule. -/
def CompiledRule.quotes (r : CompiledRule) : List Text :=
  [r.id.toList, r.rule.name.toList, (Pattern.FlagSet.render r.native.flags).toList,
   r.rule.confidence.label.toList]

/-- What it quotes about a rule that is not as it should be: the identifier with what is wrong, and
the pattern as written and in native form. Each stands behind a lead. -/
def Diagnostic.quotes (d : Diagnostic) : List (Text × Text) :=
  if d.accepted then
    [("⚠  ".toList,
      (s!"{d.ruleId}: compiled despite validator " ++ s!"({d.objection.message})").toList)]
  else
    [("✗ ".toList, s!"{d.ruleId}: {d.objection.message}".toList),
     ("    original:  ".toList, d.written),
     ("    converted: ".toList, d.converted)]

/-- All that a look at rules quotes. -/
def RuleSet.quotes (set : RuleSet) : List Text :=
  set.rules.entries.flatMap CompiledRule.quotes
    ++ (set.diagnostics.flatMap Diagnostic.quotes).map Prod.snd

/-- A line with a lead shows what a quotation is read as. -/
def Surroundings.Quotes (s : Surroundings) (quote : Text × Text) (line : Shown) : Prop :=
  ∀ lines, line = .ok lines ↔
    ∃ out, s.console.read quote.2 = .ok out ∧ lines = s.console.wrap s.screen (quote.1 ++ out)

section

variable {console : Console} {s : Surroundings} {set : RuleSet}

theorem accepts_ratio (h : console.ReadsMarkup) {opening closing : String} (style : Text)
    (hstyle : IsStyle style) (hopening : opening.toList = mark 0 style)
    (hclosing : closing.toList = mark 0 ('/' :: style)) (part all : Nat) :
    console.Accepts (opening ++ toString part ++ "/" ++ toString all ++ closing).toList := by
  have hlabel : IsOrdinary ((toString part).toList ++ ("/".toList ++ (toString all).toList)) := by
    simp only [isOrdinary_append, isOrdinary_nat, true_and, and_true]
    decide
  have haccepts := accepts_styled h hstyle hlabel.isLiteral hlabel.isInert
  simpa only [styled, String.toList_append, List.append_assoc, hopening, hclosing] using haccepts

theorem accepts_examplesCell (h : console.ReadsMarkup) (all missed : Nat) :
    console.Accepts (examplesCell all missed).toList := by
  unfold examplesCell
  split
  · exact h.accepts_ordinary (by decide)
  · split
    · exact accepts_ratio h "green".toList (by decide) (by decide) (by decide) all all
    · exact accepts_ratio h "red".toList (by decide) (by decide) (by decide) (all - missed) all

theorem accepts_ruleRow_iff (h : console.ReadsMarkup) {misses : List (String × List Text)}
    {r : CompiledRule} : (∀ entry ∈ ruleRow misses r, ∃ u, entry.read console = .ok u) ↔
      ∀ t ∈ r.quotes, console.Accepts t := by
  have hentropy := h.accepts_ordinary (isOrdinary_numberCell 1 r.rule.minEntropy)
  have hmarkup (t : Text) :
      (∃ u, (Entry.markup t).read console = .ok u) ↔ console.Accepts t := Iff.rfl
  rw [ruleRow, List.forall_mem_map]
  simp only [CompiledRule.quotes, List.forall_mem_cons, hmarkup, hentropy, accepts_examplesCell h,
    List.not_mem_nil, false_implies, implies_true, and_true]

theorem isFramed_ruleTable (h : console.ReadsMarkup) (set : RuleSet) :
    (ruleTable set).IsFramed console where
  title := h.accepts_ordinary (show IsOrdinary "Compiled rules".toList by decide)
  names column hcolumn := by
    have hall : ∀ column ∈ ruleColumns, IsOrdinary column.name := by decide
    exact h.accepts_ordinary (hall column hcolumn)
  full row hrow := by
    obtain ⟨r, -, rfl⟩ := List.mem_map.mp hrow
    rfl

/-- A line with a label shows what is quoted behind it. -/
theorem quotes_line (h : s.console.ReadsMarkup) {u t : Text} {lead quote : String}
    (front style label back : Text) (hlead : lead.toList = labelled front style label back)
    (hu : u = front ++ (label ++ back)) (hfront : ∀ c ∈ front, c = ' ') (hstyle : IsStyle style)
    (hlabel : IsLiteral label) (hinert : IsInert label) (hback : ∀ c ∈ back, c = ' ')
    (hquote : quote.toList = t) : s.Quotes (u, t) (s.line (lead ++ quote)) := by
  subst hu hquote
  intro lines
  rw [Surroundings.line, Console.shown, String.toList_append, hlead]
  simp only [map_eq_ok, h.label hfront hstyle hlabel hinert hback]
  constructor
  · rintro ⟨_, ⟨v, hv, rfl⟩, rfl⟩
    exact ⟨v, hv, rfl⟩
  · rintro ⟨v, hv, rfl⟩
    exact ⟨_, ⟨v, hv, rfl⟩, rfl⟩

/-- Each line about a rule quotes one thing. -/
theorem Diagnostic.quotes_shown (h : s.console.ReadsMarkup) (d : Diagnostic) :
    List.Forall₂ s.Quotes d.quotes (d.shown s) := by
  unfold Diagnostic.quotes Diagnostic.shown
  split
  · refine .cons ?_ .nil
    simp only [String.append_assoc]
    exact quotes_line h [] "yellow".toList "⚠".toList "  ".toList (by decide) rfl nofun (by decide)
      (by decide) (by decide) (by simp) rfl
  · refine .cons ?_ (.cons ?_ (.cons ?_ .nil))
    · simp only [String.append_assoc]
      exact quotes_line h [] "red".toList "✗".toList [' '] (by decide) rfl nofun (by decide)
        (by decide) (by decide) (by simp) rfl
    · exact quotes_line h "    ".toList "dim".toList "original:".toList "  ".toList
        (by decide +kernel) (by decide +kernel) (by simp) (by decide) (by decide) (by decide)
        (by simp) String.toList_ofList
    · exact quotes_line h "    ".toList "dim".toList "converted:".toList [' ']
        (by decide +kernel) (by decide +kernel) (by simp) (by decide) (by decide) (by decide)
        (by simp) String.toList_ofList

theorem Surroundings.Quotes.exists_iff {quote : Text × Text} {line : Shown}
    (h : s.Quotes quote line) : (∃ lines, line = .ok lines) ↔ s.console.Accepts quote.2 := by
  simp only [h _]
  exact ⟨fun ⟨_, out, hout, _⟩ => ⟨out, hout⟩, fun ⟨out, hout⟩ => ⟨_, out, hout, rfl⟩⟩

theorem forall_quotes_iff {quotes : List (Text × Text)} {lines : List Shown}
    (h : List.Forall₂ s.Quotes quotes lines) :
    (∀ line ∈ lines, ∃ out, line = .ok out) ↔ ∀ q ∈ quotes, s.console.Accepts q.2 := by
  induction h with
  | nil => exact iff_of_true (List.forall_mem_nil _) (List.forall_mem_nil _)
  | cons h _ ih => rw [List.forall_mem_cons, List.forall_mem_cons, h.exists_iff, ih]

/-- A quotation has a line of its own. -/
theorem exists_line_of_mem {quotes : List (Text × Text)} {lines : List Shown} {q : Text × Text}
    (h : List.Forall₂ s.Quotes quotes lines) (hq : q ∈ quotes) : ∃ line ∈ lines, s.Quotes q line := by
  induction h with
  | nil => cases hq
  | cons h _ ih =>
      rcases List.mem_cons.mp hq with rfl | hq
      · exact ⟨_, List.mem_cons_self, h⟩
      · obtain ⟨line, hline, hquotes⟩ := ih hq
        exact ⟨line, List.mem_cons_of_mem _ hline, hquotes⟩

theorem RuleSet.quotes_shown (h : s.console.ReadsMarkup) (ds : List Diagnostic) :
    List.Forall₂ s.Quotes (ds.flatMap Diagnostic.quotes) (ds.flatMap (Diagnostic.shown s)) := by
  induction ds with
  | nil => exact .nil
  | cons d ds ih => exact List.rel_append (d.quotes_shown h) ih

/-- **A look at rules comes to its end if all that it quotes can be read.** -/
theorem RuleSet.emit_shown_eq_none_iff (h : s.console.ReadsMarkup) (set : RuleSet) :
    (emit (set.shown s)).2 = none ↔ ∀ t ∈ set.quotes, s.console.Accepts t := by
  have hrows : (∀ row ∈ (ruleTable set).rows, ∀ entry ∈ row,
      ∃ u, entry.read s.console = .ok u) ↔
      ∀ r ∈ set.rules.entries, ∀ t ∈ r.quotes, s.console.Accepts t :=
    List.forall_mem_map.trans (forall₂_congr fun r _ => accepts_ruleRow_iff h)
  rw [emit_eq_none_iff, RuleSet.shown, List.forall_mem_cons,
    Table.exists_shown_iff (isFramed_ruleTable h set), hrows,
    forall_quotes_iff (quotes_shown h set.diagnostics), RuleSet.quotes,
    List.forall_mem_append, List.forall_mem_map]
  simp only [List.forall_mem_flatMap]

/-- **Each quotation below the table stands behind its lead on the screen.** -/
theorem RuleSet.exists_place (h : s.console.ReadsMarkup) (hends : (emit (set.shown s)).2 = none)
    {d : Diagnostic} (hd : d ∈ set.diagnostics) {q : Text × Text} (hq : q ∈ d.quotes) :
    ∃ place, s.console.Renders q.2 place
      ∧ ∀ line ∈ s.console.wrap s.screen (q.1 ++ place), line <:+: (emit (set.shown s)).1 := by
  have hmem : q ∈ set.diagnostics.flatMap Diagnostic.quotes := List.mem_flatMap.mpr ⟨d, hd, hq⟩
  obtain ⟨line, hline, hquotes⟩ := exists_line_of_mem (quotes_shown h set.diagnostics) hmem
  have hshown : line ∈ set.shown s := List.mem_cons_of_mem _ hline
  obtain ⟨lines, rfl⟩ := emit_eq_none_iff.mp hends _ hshown
  obtain ⟨place, hread, rfl⟩ := (hquotes lines).mp rfl
  exact ⟨place, h.renders hread, fun l hl => infix_emit hends hshown hl⟩

end

/-- `args.LooksOver s set`: a look at rules comes as far as having the rules, `set`. -/
def RulesArguments.LooksOver (args : RulesArguments) (s : Surroundings) (set : RuleSet) : Prop :=
  ∃ settings filter, args.settings s = .ok settings ∧ settings.log.told? = .ok filter
    ∧ (ruleSetFor s settings args.rules).2 = .ok set

/-- From then on only markup can stop it. -/
theorem RulesArguments.LooksOver.run {args : RulesArguments} {s : Surroundings} {set : RuleSet}
    (h : args.LooksOver s set) :
    (args.run s).out = (emit (set.shown s)).1
      ∧ (args.run s).stopped = (emit (set.shown s)).2.map .markup := by
  obtain ⟨settings, filter, hsettings, hfilter, hset⟩ := h
  have hstart : (args.settings s >>= fun settings =>
      settings.log.told? >>= fun filter => pure (settings, filter)) = .ok (settings, filter) :=
    bind_eq_ok.mpr ⟨settings, hsettings, bind_eq_ok.mpr ⟨filter, hfilter, rfl⟩⟩
  unfold RulesArguments.run
  rw [hstart]
  dsimp only
  rw [hset]
  dsimp only
  rw [Outcome.print]
  cases hemit : emit (set.shown s) with
  | mk t e => cases e <;> exact ⟨rfl, rfl⟩

/--
**What is quoted on a screen is read as markup.**

On every console that reads markup, a report comes to its end exactly if all that it quotes can be
read, and not if a quotation has a closing tag with nothing to close. In the table that it then
draws each quotation has a place, and what stands there is what the console reads: the quotation
itself if nothing in it is special, and something else if there is a tag in it. The same holds for a
look at rules, and for what stands behind each lead below its table.
-/
theorem quotations_read (console : Console) (h : console.ReadsMarkup) :
    (∀ (screen : Nat) (redacted summarised : Bool) (r : BatchResult),
      let (text, stopped) := emit (r.shown screen redacted summarised console)
      (stopped = none ↔ ∀ f ∈ r.findings, ∀ q ∈ f.quotes redacted, console.Accepts q.2)
      ∧ (∀ f ∈ r.findings, ∀ q ∈ f.quotes redacted, ClosesNothing q.2 → stopped ≠ none)
      ∧ (r.findings ≠ [] → stopped = none → ∃ sheet : Sheet,
        (∀ line ∈ console.draw sheet, line <:+: text)
        ∧ ∀ i f q, r.findings[i]? = some f → q ∈ f.quotes redacted →
          ∃ place, sheet.at? i q.1 = some place ∧ console.Renders q.2 place))
    ∧ ∀ (args : RulesArguments) (s : Surroundings) (set : RuleSet), s.console = console →
      args.LooksOver s set →
      ((args.run s).stopped = none ↔ ∀ t ∈ set.quotes, console.Accepts t)
      ∧ (∀ t ∈ set.quotes, ClosesNothing t → (args.run s).stopped ≠ none)
      ∧ ((args.run s).stopped = none → ∀ d ∈ set.diagnostics, ∀ q ∈ d.quotes,
        ∃ place, console.Renders q.2 place
          ∧ ∀ line ∈ console.wrap s.screen (q.1 ++ place), line <:+: (args.run s).out) := by
  refine ⟨fun screen redacted summarised r => ?report, ?rules⟩
  case report =>
    have hends := Report.emit_shown_eq_none_iff h screen redacted summarised r
    refine ⟨hends, fun f hf q hq hcloses hnone => ?_, fun hsome => Report.exists_sheet h hsome⟩
    exact h.not_accepts hcloses (hends.mp hnone f hf q hq)
  case rules =>
    rintro args s set rfl hlooks
    obtain ⟨hout, hstopped⟩ := hlooks.run
    have hends := RuleSet.emit_shown_eq_none_iff h set
    rw [hout, hstopped, Option.map_eq_none_iff, ne_eq, Option.map_eq_none_iff]
    refine ⟨hends, fun t ht hcloses hnone => h.not_accepts hcloses (hends.mp hnone t ht),
      fun hnone d hd q hq => RuleSet.exists_place h hnone hd hq⟩

/-- A report of one finding, in a file at a location. -/
def reportIn (location : String) : BatchResult :=
  { BatchResult.empty with
    findings :=
      [{ found :=
          { ruleId := "key", ruleName := "Key", confidence := .medium, text := "k12".toList,
            offset := 0, entropy := none, ignored := false }
         score := .clamp 70
         context := []
         location := location.toList
         line := 1 }] }

/-- On the console at hand a report comes to its end if there is nothing special in a location, and
not if there is a closing tag in it. -/
theorem quotations_read_usual :
    Console.usual.ReadsMarkup
      ∧ (emit ((reportIn "app/id/page.ts").shown 200 true false)).2 = none
      ∧ (emit ((reportIn "app/[/id]/page.ts").shown 200 true false)).2 ≠ none := by
  have hall := (quotations_read .usual Console.usual_readsMarkup).1 200 true false
  refine ⟨Console.usual_readsMarkup, (hall (reportIn "app/id/page.ts")).1.mpr ?_, ?_⟩
  · intro f hf q hq
    rw [List.mem_singleton.mp hf] at hq
    exact Console.usual_readsMarkup.accepts ((show ∀ q ∈ Finding.quotes true _, IsLiteral q.2 by
      decide +kernel) q hq)
  · refine (hall (reportIn "app/[/id]/page.ts")).2.1 _ List.mem_cons_self
      (2, "app/[/id]/page.ts".toList) (.tail _ (.head _)) ?_
    exact ⟨"app/".toList, ['/', 'i', 'd'], "/page.ts".toList,
      ⟨⟨'/', rfl, by decide⟩, by simp⟩, rfl, by decide, by decide, by decide +kernel⟩

/-- A folder with a name in square brackets is left out of a report, one with a slash before its
name stops the report, and a look at rules leaves a set of characters out of a pattern that cannot
be read. -/
theorem quotations_read_brackets :
    ((Report.findingTable true (reportIn "app/[id]/page.ts").findings).read .usual).toOption.bind
          (·.at? 0 2)
        = some "app//page.ts".toList
      ∧ (emit ((reportIn "app/[/id]/page.ts").shown 200 true false)).2
        = some (.notOpen "/id".toList 4)
      ∧ (compileAll [.ofPattern "a" "A" "([a-z]".toList]).1.failures.map
          (fun d => (d.written,
            (d.shown { files := .ofTree ⟨true, []⟩ (.folder []), env := [] }).map Except.toOption))
        = [("([a-z]".toList,
            ["✗ a: error: missing ) at position 6", "    original:  (", "    converted: ("].map
              fun line => some [line.toList])] := by
  decide +kernel

end SecretScan
