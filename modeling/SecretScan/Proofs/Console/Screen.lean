import SecretScan.Console.Table
import SecretScan.Proofs.Console.Markup

/-!
# What a console makes of markup

A console may do many things to a text that is written in markup. Little of that is relied on
(`Console.ReadsMarkup`): text in which nothing is special is passed on as it is, a label in a style
does not matter to what comes behind it, a tag is not passed on, and a closing tag has to have
something to close. The console at hand is one that reads markup like this (`usual_readsMarkup`).

What is shown is a row of lines and tables, and showing it stops at the first that cannot be read
(`emit_eq_none_iff`). Each entry of a table is read by itself, so a table is drawn if all its
entries can be read (`Table.exists_shown_iff`), and the sheet that is drawn has in each place what
the entry there is read as (`Table.at?_of_read`).
-/

namespace SecretScan.Console

open Markup

/-! ## Markup -/

/-- Whether a name of a sign could stand in a text: two colons without a blank between them. -/
def hasSignName : Text → Bool
  | [] => false
  | c :: t =>
    (c = ':' && (t.dropWhile fun d => d ≠ ':' && !Text.isBlank d).head? = some ':') || hasSignName t

/-- Text in which nothing is special. -/
structure IsLiteral (t : Text) : Prop where
  /-- It holds no markup. -/
  isPlain : IsPlain t
  /-- It holds no name of a sign. -/
  noName : hasSignName t = false
  /-- It holds no control. -/
  noControl : ∀ c ∈ t, isDropped c = false

/-- There is a tag in a text. -/
def HasTag (t : Text) : Prop :=
  ∃ before inner after, IsTag inner ∧ t = before ++ '[' :: (inner ++ ']' :: after)

/-- The first tag in a text is a closing one, and nothing keeps it from being a tag. -/
def ClosesNothing (t : Text) : Prop :=
  ∃ before inner after, IsTag inner ∧ inner.head? = some '/' ∧ '[' ∉ before
    ∧ before.getLast? ≠ some '\\' ∧ t = before ++ '[' :: (inner ++ ']' :: after)

/-- A label in a style, with text in no style around it. -/
def labelled (front style label back : Text) : Text :=
  front ++ (styled style label ++ back)

/-- What is relied on of a console that reads markup. -/
structure ReadsMarkup (console : Console) : Prop where
  /-- Text in which nothing is special is passed on as it is. -/
  literal {t : Text} : IsLiteral t → console.read t = .ok t
  /-- Behind a label in a style, with spaces around it, markup is read as it would be without. -/
  label {front style label back t u : Text} : (∀ c ∈ front, c = ' ') → IsStyle style →
    IsLiteral label → IsInert label → (∀ c ∈ back, c = ' ') →
    (console.read (labelled front style label back ++ t) = .ok u ↔
      ∃ v, console.read t = .ok v ∧ u = front ++ (label ++ back) ++ v)
  /-- A tag, or a backslash that keeps it from being one, is taken out, and no other is put in. -/
  tag {t u : Text} : HasTag t → console.read t = .ok u → signs u < signs t
  /-- A closing tag that has nothing to close cannot be read. -/
  closing {t : Text} : ClosesNothing t → ∃ e, console.read t = .error e

/-- The console can read a text. -/
def Accepts (console : Console) (t : Text) : Prop :=
  ∃ u, console.read t = .ok u

/-- What stands in the place of a text that is shown as markup. -/
structure Renders (console : Console) (t place : Text) : Prop where
  /-- It is what the console reads. -/
  read : console.read t = .ok place
  /-- It is the text itself if nothing in it is special. -/
  literal : IsLiteral t → place = t
  /-- It is another text if there is a tag in it. -/
  tagged : HasTag t → place ≠ t

variable {console : Console} {t u : Text}

theorem ReadsMarkup.renders (h : console.ReadsMarkup) (hread : console.read t = .ok u) :
    console.Renders t u where
  read := hread
  literal hliteral := Except.ok.inj (hread.symm.trans (h.literal hliteral))
  tagged htag heq := Nat.lt_irrefl _ (heq ▸ h.tag htag hread)

theorem ReadsMarkup.accepts (h : console.ReadsMarkup) (hliteral : IsLiteral t) :
    console.Accepts t :=
  ⟨t, h.literal hliteral⟩

theorem ReadsMarkup.not_accepts (h : console.ReadsMarkup) (hcloses : ClosesNothing t) :
    ¬ console.Accepts t := by
  rintro ⟨u, hread⟩
  obtain ⟨e, herror⟩ := h.closing hcloses
  cases hread.symm.trans herror

/-! ### Ordinary text -/

/-- Text without anything that means something in markup. -/
def IsOrdinary (t : Text) : Prop :=
  ∀ c ∈ t, c ≠ '\\' ∧ c ≠ '[' ∧ c ≠ ':' ∧ isDropped c = false

instance decidableIsOrdinary (t : Text) : Decidable (IsOrdinary t) :=
  List.decidableBAll (fun c => c ≠ '\\' ∧ c ≠ '[' ∧ c ≠ ':' ∧ isDropped c = false) t

instance decidableIsLiteral (t : Text) : Decidable (IsLiteral t) :=
  decidable_of_iff
    ((Markup.shown t).toOption = some t ∧ hasSignName t = false
      ∧ t.all (fun c => !isDropped c) = true)
    (by
      have hplain : (Markup.shown t).toOption = some t ↔ IsPlain t := by
        rw [← shown_eq_self_iff]
        cases Markup.shown t <;> simp [Except.toOption]
      rw [hplain, List.all_eq_true]
      simp only [Bool.not_eq_true']
      exact ⟨fun h => ⟨h.1, h.2.1, h.2.2⟩, fun h => ⟨h.isPlain, h.noName, h.noControl⟩⟩)

theorem isOrdinary_append : IsOrdinary (t ++ u) ↔ IsOrdinary t ∧ IsOrdinary u :=
  List.forall_mem_append

theorem hasSignName_of_notMem (h : ':' ∉ t) : hasSignName t = false := by
  induction t with
  | nil => rfl
  | cons c t ih =>
      rw [List.mem_cons, not_or] at h
      rw [hasSignName, ih h.2, decide_eq_false (Ne.symm h.1)]
      rfl

theorem IsOrdinary.isInert (h : IsOrdinary t) : IsInert t := fun c hc =>
  ⟨(h c hc).1, (h c hc).2.1⟩

theorem IsOrdinary.isLiteral (h : IsOrdinary t) : IsLiteral t where
  isPlain := h.isInert.isPlain
  noName := hasSignName_of_notMem fun hmem => (h _ hmem).2.2.1 rfl
  noControl c hc := (h c hc).2.2.2

/-! ### The console at hand -/

theorem filter_eq_self (h : ∀ c ∈ t, isDropped c = false) :
    (t.filter fun c => !isDropped c) = t :=
  List.filter_eq_self.mpr fun c hc => by rw [h c hc]; rfl

theorem usual_read_eq_ok_iff :
    usual.read t = .ok u ↔ ∃ out, Markup.shown t = .ok out ∧ (out.filter fun c => !isDropped c) = u :=
  map_eq_ok

theorem usual_label {front style label back : Text} (hfront : ∀ c ∈ front, c = ' ')
    (hstyle : IsStyle style) (hlabel : IsLiteral label) (hinert : IsInert label)
    (hback : ∀ c ∈ back, c = ' ') :
    usual.read (labelled front style label back ++ t) = .ok u ↔
      ∃ v, usual.read t = .ok v ∧ u = front ++ (label ++ back) ++ v := by
  have hspace : ∀ {t : Text}, (∀ c ∈ t, c = ' ') → IsInert t ∧ ∀ c ∈ t, isDropped c = false :=
    fun h => ⟨fun c hc => h c hc ▸ by decide, fun c hc => h c hc ▸ by decide⟩
  have hleads : Leads (labelled front style label back) (front ++ (label ++ back)) :=
    .append (leads_of_isInert (hspace hfront).1)
      (.append (hstyle.leads hinert) (leads_of_isInert (hspace hback).1))
  have hkept : ((front ++ (label ++ back)).filter fun c => !isDropped c)
      = front ++ (label ++ back) :=
    filter_eq_self <| List.forall_mem_append.mpr ⟨(hspace hfront).2,
      List.forall_mem_append.mpr ⟨hlabel.noControl, (hspace hback).2⟩⟩
  simp only [usual_read_eq_ok_iff, hleads.shown_eq_ok_iff]
  constructor
  · rintro ⟨_, ⟨out, hout, rfl⟩, rfl⟩
    exact ⟨_, ⟨out, hout, rfl⟩, by rw [List.filter_append, hkept]⟩
  · rintro ⟨_, ⟨out, hout, rfl⟩, rfl⟩
    exact ⟨_, ⟨out, hout, rfl⟩, by rw [List.filter_append, hkept]⟩

theorem signs_filter_le (t : Text) (p : Char → Bool) : signs (t.filter p) ≤ signs t :=
  List.Sublist.countP_le List.filter_sublist

theorem usual_tag (htag : HasTag t) (hread : usual.read t = .ok u) : signs u < signs t := by
  obtain ⟨before, inner, after, hinner, rfl⟩ := htag
  obtain ⟨out, hout, rfl⟩ := usual_read_eq_ok_iff.mp hread
  obtain ⟨tags, hreads, -⟩ := shown_eq_ok_iff.mp hout
  obtain ⟨hle, hplain⟩ := hreads.signs_le
  refine Nat.lt_of_le_of_lt (signs_filter_le _ _) (Nat.lt_of_le_of_ne hle fun heq => ?_)
  exact (hplain heq).noTag before inner after hinner rfl

/-- Text in front of the first tag is read as it is. -/
theorem reads_before {before inner after out : Text} {tags : List Text} (hno : '[' ∉ before)
    (hlast : before.getLast? ≠ some '\\')
    (h : Reads ('[' :: (inner ++ ']' :: after)) out tags) :
    Reads (before ++ '[' :: (inner ++ ']' :: after)) (before ++ out) tags := by
  induction before with
  | nil => exact h
  | cons c before ih =>
      have hbefore : '[' ∉ before := List.not_mem_of_not_mem_cons hno
      have hlast' : before.getLast? ≠ some '\\' := by
        cases before with
        | nil => nofun
        | cons d before => rwa [List.getLast?_cons_cons] at hlast
      refine .char ?_ ?_ (ih hbefore hlast')
      · -- backslashes alone do not stand in front of the bracket
        intro slashes inner' after' _ heq
        have hrun {s : Text} (hs : '[' ∉ s) (r : Text) : (s ++ '[' :: r).takeWhile (· ≠ '[') = s :=
          Pattern.takeWhile_ne_append fun d hd => ne_of_mem_of_not_mem hd hs
        have hslashes : '[' ∉ List.replicate slashes '\\' := fun hmem =>
          absurd (List.eq_of_mem_replicate hmem) (by decide)
        rw [mark_append] at heq
        have hall : c :: before = List.replicate slashes '\\' :=
          (hrun hno _).symm.trans ((congrArg _ heq).trans (hrun hslashes _))
        have hmem : (c :: before).getLast (by simp) ∈ List.replicate slashes '\\' :=
          hall ▸ List.getLast_mem _
        rw [List.getLast?_eq_some_getLast (by simp), List.eq_of_mem_replicate hmem] at hlast
        exact hlast rfl
      · rintro ⟨rfl, hhead⟩
        cases before with
        | nil => exact hlast rfl
        | cons d before => exact hbefore (Option.some.inj hhead ▸ List.mem_cons_self)

theorem usual_closing (h : ClosesNothing t) : ∃ e, usual.read t = .error e := by
  obtain ⟨before, inner, after, hinner, hslash, hno, hlast, rfl⟩ := h
  obtain ⟨out, tags, hreads⟩ := exists_reads after
  have htag : Reads (mark 0 inner ++ after) out (inner :: tags) := .tag hinner rfl hreads
  rw [mark_append] at htag
  cases hread : usual.read (before ++ '[' :: (inner ++ ']' :: after)) with
  | error e => exact ⟨e, rfl⟩
  | ok u =>
      obtain ⟨out, hout, -⟩ := usual_read_eq_ok_iff.mp hread
      obtain ⟨-, hcloses⟩ := ((reads_before hno hlast htag).textOf_eq_ok_iff 0).mp hout
      -- no tag is open in front of it
      cases hcloses with
      | opening hhead => exact absurd hslash hhead
      | named _ _ hopen => cases hopen

/-- **The console at hand reads markup.** -/
theorem usual_readsMarkup : ReadsMarkup usual where
  literal h := usual_read_eq_ok_iff.mpr
    ⟨_, shown_eq_self_iff.mpr h.isPlain, filter_eq_self h.noControl⟩
  label := usual_label
  tag := usual_tag
  closing := usual_closing

/-! ## Lines -/

/-- Showing comes to its end if everything that is to be shown makes sense. -/
theorem emit_eq_none_iff {shown : List Shown} :
    (emit shown).2 = none ↔ ∀ s ∈ shown, ∃ lines, s = .ok lines := by
  induction shown with
  | nil => simp [emit]
  | cons s shown ih => cases s <;> simp [emit, ih]

/-- What is shown on the way to the end stands there. -/
theorem infix_emit {shown : List Shown} {lines : List Text} {line : Text}
    (hends : (emit shown).2 = none) (hlines : .ok lines ∈ shown) (hline : line ∈ lines) :
    line <:+: (emit shown).1 := by
  induction shown with
  | nil => cases hlines
  | cons s shown ih =>
      cases s with
      | error e => cases hends
      | ok first =>
          rw [emit] at hends ⊢
          rcases List.mem_cons.mp hlines with heq | hlines
          · obtain rfl := Except.ok.inj heq
            have hin : line <:+: lines.flatMap (· ++ ['\n']) := by
              rw [List.flatMap_def]
              exact (List.prefix_append line ['\n']).isInfix.trans
                (List.infix_of_mem_flatten (List.mem_map_of_mem hline))
            exact hin.trans (List.prefix_append _ _).isInfix
          · exact (ih hends hlines).trans (List.suffix_append _ _).isInfix

theorem exists_shown_iff {screen : Nat} {markup : Text} :
    (∃ lines, console.shown screen markup = .ok lines) ↔ console.Accepts markup := by
  simp only [shown, map_eq_ok]
  exact ⟨fun ⟨_, u, h, _⟩ => ⟨u, h⟩, fun ⟨u, h⟩ => ⟨_, u, h, rfl⟩⟩

/-! ## Tables -/

/-- The text in a row and a column of a sheet. -/
def Sheet.at? (s : Sheet) (row column : Nat) : Option Text :=
  s.columns[column]?.bind fun c => c.2.2[row]?

namespace Table

/-- A table with a title and names that can be read, and a name for each entry of a row. -/
structure IsFramed (console : Console) (table : Table) : Prop where
  title : console.Accepts table.title
  names : ∀ column ∈ table.columns, console.Accepts column.name
  full : ∀ row ∈ table.rows, row.length = table.columns.length

variable {table : Table} {sheet : Sheet} {row : List Entry} {entry : Entry} {i k : Nat}

theorem exists_readColumn_iff {column : Column} (hname : console.Accepts column.name) :
    (∃ read, table.readColumn console column k = .ok read) ↔
      ∀ row ∈ table.rows, ∃ u, (row[k]?.getD (.plain [])).read console = .ok u := by
  unfold readColumn
  simp only [bind_eq_ok, ← exists_mapM_iff]
  obtain ⟨name, hname⟩ := hname
  exact ⟨fun ⟨_, _, _, below, hbelow, _⟩ => ⟨below, hbelow⟩,
    fun ⟨below, hbelow⟩ => ⟨_, name, hname, below, hbelow, rfl⟩⟩

theorem exists_read_iff (h : table.IsFramed console) :
    (∃ sheet, table.read console = .ok sheet) ↔
      ∀ row ∈ table.rows, ∀ entry ∈ row, ∃ u, entry.read console = .ok u := by
  unfold read
  simp only [bind_eq_ok]
  constructor
  · -- every entry of a row has a column, since the rows are full
    rintro ⟨sheet, columns, hcolumns, -⟩ row hrow entry hentry
    obtain ⟨k, hk⟩ := List.mem_iff_getElem?.mp hentry
    obtain ⟨hk', -⟩ := List.getElem?_eq_some_iff.mp hk
    rw [h.full row hrow] at hk'
    have hcolumn : (table.columns[k], k) ∈ table.columns.zipIdx :=
      List.mk_mem_zipIdx_iff_getElem?.mpr (List.getElem?_eq_getElem hk')
    have hname := h.names _ (List.getElem_mem hk')
    have hread := exists_mapM_iff.mp ⟨columns, hcolumns⟩ _ hcolumn
    obtain ⟨u, hu⟩ := (exists_readColumn_iff hname).mp hread row hrow
    rw [hk] at hu
    exact ⟨u, hu⟩
  · intro hrows
    obtain ⟨title, htitle⟩ := h.title
    have hcolumns : ∀ column ∈ table.columns.zipIdx, ∃ read,
        table.readColumn console column.1 column.2 = .ok read := by
      intro column hcolumn
      have hname := h.names _ (List.fst_mem_of_mem_zipIdx hcolumn)
      refine (exists_readColumn_iff hname).mpr fun row hrow => ?_
      cases hk : row[column.2]? with
      | none => exact ⟨[], rfl⟩
      | some entry => exact hrows row hrow entry (List.mem_of_getElem? hk)
    obtain ⟨columns, hcolumns⟩ := exists_mapM_iff.mpr hcolumns
    exact ⟨_, columns, hcolumns, title, htitle, rfl⟩

/-- **A table is shown if all its entries can be read.** -/
theorem exists_shown_iff (h : table.IsFramed console) :
    (∃ lines, table.shown console = .ok lines) ↔
      ∀ row ∈ table.rows, ∀ entry ∈ row, ∃ u, entry.read console = .ok u := by
  rw [← exists_read_iff h]
  simp only [shown, map_eq_ok]
  exact ⟨fun ⟨_, sheet, h, _⟩ => ⟨sheet, h⟩, fun ⟨sheet, h⟩ => ⟨_, sheet, h, rfl⟩⟩

/-- **In each place of the sheet stands what the entry there is read as.** -/
theorem at?_of_read (h : table.IsFramed console) (hread : table.read console = .ok sheet)
    (hrow : table.rows[i]? = some row) (hentry : row[k]? = some entry) :
    ∃ u, sheet.at? i k = some u ∧ entry.read console = .ok u := by
  have hk : k < table.columns.length := by
    rw [← h.full row (List.mem_of_getElem? hrow)]
    exact (List.getElem?_eq_some_iff.mp hentry).1
  have hcolumn : table.columns.zipIdx[k]? = some (table.columns[k], k) := by
    simp [hk]
  obtain ⟨columns, hcolumns, hread⟩ := bind_eq_ok.mp hread
  obtain ⟨title, -, hread⟩ := bind_eq_ok.mp hread
  cases hread
  obtain ⟨⟨column, name, below⟩, hat, hbelow⟩ := getElem?_of_mapM hcolumns hcolumn
  obtain ⟨_, _, hbelow⟩ := bind_eq_ok.mp hbelow
  obtain ⟨_, hbelow, hpair⟩ := bind_eq_ok.mp hbelow
  cases hpair
  obtain ⟨u, hu, hof⟩ := getElem?_of_mapM hbelow hrow
  rw [hentry] at hof
  exact ⟨u, Option.bind_eq_some_iff.mpr ⟨_, hat, hu⟩, hof⟩

end Table

end SecretScan.Console
