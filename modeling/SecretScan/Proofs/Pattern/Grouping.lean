import SecretScan.Proofs.Pattern.Familiar

/-!
# How engines divide a pattern

Engines agree on how a pattern is divided into groups and classes: parentheses outside classes come
in pairs, and inside a class everything is a member, up to the first `]` that is neither escaped nor
in front nor part of a named item (`Grouped`). What else the notation of an engine has to offer
makes no difference to that, unless flags switch to another notation; from there on nothing is
known.

A walk divides a familiar pattern in the same way (`Grouped.reads`), so such a pattern is balanced
if it can be divided at all (`balance_of_grouped`). Inside a class the two readings have to stay in
step character by character, since a bracket that only one of them takes for syntax would set them
apart for the rest of the pattern. The exception is a walk that has left the class too early
(`Within.adrift`): in front of tame text it is caught up with at the `]` of the class, which is
nothing special outside one.
-/

namespace SecretScan.Pattern

/-! ## The division -/

/-- `TakesMember s t`: a member of a class stands in front of `t`, the end of `s`. -/
inductive TakesMember : Text → Text → Prop where
  /-- An escaped character. -/
  | escape {c : Char} {t : Text} : TakesMember ('\\' :: c :: t) t
  /-- A named item. -/
  | named {name t : Text} : (∀ c ∈ name, isItemChar c = true) →
      TakesMember ('[' :: ':' :: (name ++ ':' :: ']' :: t)) t
  /-- Any other character. No `[` is that if letters make it a named item. -/
  | plain {c : Char} {t : Text} : c ≠ '\\' → namedItemLength? (c :: t) = none →
      TakesMember (c :: t) t

/-- `TakesMembers s t`: behind a member of a class, others stand in front of its `]` and that in
front of `t`, the end of `s`. -/
inductive TakesMembers : Text → Text → Prop where
  | close {t : Text} : TakesMembers (']' :: t) t
  | member {s s' t : Text} : s.head? ≠ some ']' → TakesMember s s' → TakesMembers s' t →
      TakesMembers s t

/-- `TakesClass s t`: a class, but for its `[`, stands in front of `t`, the end of `s`. Its first
member may be a `]`. -/
inductive TakesClass : Text → Text → Prop where
  | plain {s s' t : Text} : s.head? ≠ some '^' → TakesMember s s' → TakesMembers s' t →
      TakesClass s t
  | negated {s s' t : Text} : TakesMember s s' → TakesMembers s' t → TakesClass ('^' :: s) t

/-- What may stand in a comment group: every `)` in it has a backslash before it. -/
def IsRemark (body : Text) : Prop :=
  ∀ front back, body = front ++ ')' :: back → front.getLast? = some '\\'

/-- `Grouped s t`: what stands in front of `t`, the end of `s`, is divided into characters, escapes,
classes, comment groups and other groups. Behind a switch to another notation it may be anything. -/
inductive Grouped : Text → Text → Prop where
  | refl {s : Text} : Grouped s s
  /-- A character that is none of a backslash, a `[` and a parenthesis. -/
  | inert {c : Char} {s t : Text} : IsInert c → Grouped s t → Grouped (c :: s) t
  /-- An escaped character. -/
  | escape {c : Char} {s t : Text} : Grouped s t → Grouped ('\\' :: c :: s) t
  /-- A class. -/
  | cls {s s' t : Text} : TakesClass s s' → Grouped s' t → Grouped ('[' :: s) t
  /-- A comment group. -/
  | remark {body s t : Text} : IsRemark body → Grouped s t →
      Grouped ('(' :: '?' :: '#' :: (body ++ ')' :: s)) t
  /-- A group. -/
  | group {s s' t : Text} : Grouped s (')' :: s') → Grouped s' t → Grouped ('(' :: s) t
  /-- Flags that switch to another notation. -/
  | switch {s t : Text} : switchesNotation ('(' :: s) = true → Grouped ('(' :: s) t

/-- A pattern can be divided to its end. -/
def IsGrouped (pattern : Text) : Prop :=
  Grouped pattern []

theorem Grouped.trans {s t u : Text} (h : Grouped s t) (h' : Grouped t u) : Grouped s u := by
  induction h with
  | refl => exact h'
  | inert hc _ ih => exact .inert hc (ih h')
  | escape _ ih => exact .escape (ih h')
  | cls hcls _ ih => exact .cls hcls (ih h')
  | remark hbody _ ih => exact .remark hbody (ih h')
  | group hinside _ _ ih => exact .group hinside (ih h')
  | switch hswitch => exact .switch hswitch

/-! ## Members read by a walk -/

variable {m : Mode} {s s' t : Text}

theorem members_reads {u : Text} (h : ∀ c ∈ u, IsHarmless c) (t : Text) :
    Mode.members.Reads (u ++ t) .members t := by
  induction u with
  | nil => exact .refl _ _
  | cons c u ih =>
      obtain ⟨hc, hu⟩ := List.forall_mem_cons.mp h
      obtain ⟨hback, hopen, hclose, -⟩ := isHarmless_iff.mp hc
      have hread : Mode.members.read c (u ++ t) = (.member, .members) := by
        rw [Mode.read, if_neg hclose, Mode.readMember, if_neg hback, if_neg hopen]
      exact (Mode.Reads.step hread (by decide)).trans (ih hu)

theorem item_reads (name t : Text) :
    (Mode.item name.length).Reads (name ++ ']' :: t) .members t := by
  induction name with
  | nil =>
      have hclose : (Mode.item 0).read ']' t = (.classClose, .members) := rfl
      exact .step hclose (by decide)
  | cons c name ih =>
      have hread : (Mode.item (name.length + 1)).read c (name ++ ']' :: t)
          = (.member, .item name.length) := rfl
      exact (Mode.Reads.step hread (by decide)).trans ih

/-- Where the walk is behind a member of a class: among the members too, or misled by a named item
and outside already, in front of tame text. -/
inductive Within : Mode → Text → Prop where
  | members {s : Text} : Within .members s
  | adrift {s : Text} : isTame s = true → Within .outside s

/-- Where the walk is in front of a member of a class: it reads the next character as a member,
whatever that is, or it is outside already. -/
inductive Awaits : Mode → Text → Prop where
  | member {m : Mode} {s : Text} : (∀ c t, s = c :: t → m.read c t = Mode.readMember c t) →
      Awaits m s
  | adrift {s : Text} : isTame s = true → s.head? ≠ some ']' → Awaits .outside s

/-- A stretch from the mode `m` to a place behind a member. -/
def LeadsWithin (m : Mode) (s t : Text) : Prop :=
  ∃ m', m.Reads s m' t ∧ Within m' t

theorem awaits_negated (s : Text) : Awaits .negated s :=
  .member fun _ _ _ => rfl

theorem awaits_opened (h : s.head? ≠ some '^') : Awaits .opened s := by
  refine .member ?_
  rintro c t rfl
  exact if_neg fun e => h (congrArg some e)

theorem Within.awaits (h : Within m s) (hclose : s.head? ≠ some ']') : Awaits m s := by
  cases h with
  | members =>
      refine .member ?_
      rintro c t rfl
      exact if_neg fun e => hclose (congrArg some e)
  | adrift htame => exact .adrift htame hclose

/-- The `]` of the class leads outside. -/
theorem Within.close (h : Within m (']' :: t)) : m.Reads (']' :: t) .outside t := by
  cases h with
  | members =>
      have hread : Mode.members.read ']' t = (.classClose, .outside) := rfl
      exact .step hread (by decide)
  | adrift _ => exact .inert (List.forall_mem_singleton.mpr (by decide)) t

/-- An escape outside classes. -/
theorem escape_reads (c : Char) (t : Text) : Mode.outside.Reads ('\\' :: c :: t) .outside t := by
  have hback : Mode.outside.read '\\' (c :: t) = (.escape, .escape) := rfl
  have hescaped : Mode.escape.read c t = (.escaped, .outside) := rfl
  exact (Mode.Reads.step hback (by decide)).trans (.step hescaped (by decide))

/-- An escape among the members. -/
theorem Awaits.escape {c : Char} (hm : Awaits m ('\\' :: c :: t)) :
    LeadsWithin m ('\\' :: c :: t) t := by
  cases hm with
  | member hm =>
      have hback : m.read '\\' (c :: t) = (.escape, .memberEscape) := hm _ _ rfl
      have hescaped : Mode.memberEscape.read c t = (.escaped, .members) := rfl
      exact ⟨.members, (Mode.Reads.step hback (by decide)).trans (.step hescaped (by decide)),
        .members⟩
  | adrift htame _ => exact ⟨.outside, escape_reads c t, .adrift htame⟩

/-- A named item that the walk knows. Both readings end it at the first `]`. -/
theorem known_item_leads {name : Text} {n : Nat} (hclose : ∀ c ∈ name, c ≠ ']')
    (hn : namedItemLength? ('[' :: (name ++ ']' :: t)) = some n)
    (hread : m.read '[' (name ++ ']' :: t) = Mode.readMember '[' (name ++ ']' :: t)) :
    LeadsWithin m ('[' :: (name ++ ']' :: t)) t := by
  rw [Mode.readMember, if_neg (by decide), if_pos rfl, hn] at hread
  obtain ⟨name', rest, hname', hs, rfl⟩ := namedItemLength?_eq_some.mp hn
  obtain ⟨rfl, rfl⟩ := eq_of_first_close hclose (fun c hc => (hname'.inert c hc).1) hs
  have hfirst : m.Reads ('[' :: (name ++ ']' :: t)) (.item name.length) (name ++ ']' :: t) :=
    .step hread (by decide)
  exact ⟨.members, hfirst.trans (item_reads name t), .members⟩

/-- A named item that the walk takes for plain members: at the `]` of the item it leaves the class,
and what follows is tame, or it would be misled. -/
theorem unknown_item_leads {name : Text} (hname : ∀ c ∈ name, IsHarmless c)
    (hbegins : beginsNamedItem ('[' :: (name ++ ']' :: t)) = true)
    (hn : namedItemLength? ('[' :: (name ++ ']' :: t)) = none)
    (hread : m.read '[' (name ++ ']' :: t) = Mode.readMember '[' (name ++ ']' :: t))
    (hf : m.Familiar ('[' :: (name ++ ']' :: t))) : LeadsWithin m ('[' :: (name ++ ']' :: t)) t := by
  rw [Mode.readMember, if_neg (by decide), if_pos rfl, hn] at hread
  have htame : isTame t = true := by
    have hclose : ∀ c ∈ name, c ≠ ']' := fun c hc => (isHarmless_iff.mp (hname c hc)).2.2.1
    have hmislead := hf [] _ _ rfl
    rw [Mode.behind, hread, misleads, hbegins] at hmislead
    rw [List.dropWhile_cons_of_pos (by decide), dropWhile_ne_append hclose] at hmislead
    simpa using hmislead
  have hfirst : m.Reads ('[' :: (name ++ ']' :: t)) .members (name ++ ']' :: t) :=
    .step hread (by decide)
  have hsecond : Mode.members.Reads (name ++ ']' :: t) .members (']' :: t) :=
    members_reads hname (']' :: t)
  exact ⟨.outside, hfirst.trans (hsecond.trans Within.members.close), .adrift htame⟩

/-- A named item among the members. -/
theorem Awaits.named {name : Text} (hname : ∀ c ∈ name, isItemChar c = true)
    (hm : Awaits m ('[' :: ':' :: (name ++ ':' :: ']' :: t)))
    (hf : m.Familiar ('[' :: ':' :: (name ++ ':' :: ']' :: t))) :
    LeadsWithin m ('[' :: ':' :: (name ++ ':' :: ']' :: t)) t := by
  have hbegins := beginsNamedItem_of_isItemChar hname t
  have hharmless : ∀ c ∈ ':' :: (name ++ [':']), IsHarmless c :=
    List.forall_mem_cons.mpr ⟨by decide, List.forall_mem_append.mpr
      ⟨fun c hc => isHarmless_of_isItemChar (hname c hc),
        List.forall_mem_singleton.mpr (by decide)⟩⟩
  have hsplit : ':' :: (name ++ ':' :: ']' :: t) = ':' :: (name ++ [':']) ++ ']' :: t := by simp
  rw [hsplit] at hm hf hbegins ⊢
  cases hm with
  | adrift htame _ =>
      -- no named item begins in tame text
      rw [isTame_cons (by decide) (by decide)] at htame
      exact absurd htame.1 (by decide)
  | member hm =>
      have hread := hm _ _ rfl
      cases hn : namedItemLength? ('[' :: (':' :: (name ++ [':']) ++ ']' :: t)) with
      | none => exact unknown_item_leads hharmless hbegins hn hread hf
      | some n =>
          have hclose : ∀ c ∈ ':' :: (name ++ [':']), c ≠ ']' :=
            fun c hc => (isHarmless_iff.mp (hharmless c hc)).2.2.1
          exact known_item_leads hclose hn hread

/-- A member that is neither an escape nor a named item. -/
theorem Awaits.plain {c : Char} (hm : Awaits m (c :: t)) (hback : c ≠ '\\')
    (hitem : namedItemLength? (c :: t) = none) : LeadsWithin m (c :: t) t := by
  cases hm with
  | member hm =>
      have hread : m.read c t = (.member, .members) := by
        rw [hm c t rfl, Mode.readMember, if_neg hback]
        by_cases hopen : c = '['
        · rw [if_pos hopen, ← hopen, hitem]
        · rw [if_neg hopen]
      exact ⟨.members, .step hread (by decide), .members⟩
  | adrift htame hclose =>
      obtain ⟨hinert, htail⟩ := (isTame_cons hback fun e => hclose (congrArg some e)).mp htame
      exact ⟨.outside, .inert (List.forall_mem_singleton.mpr hinert) t, .adrift htail⟩

/-- **A walk takes a member of a class for one.** -/
theorem TakesMember.leads (h : TakesMember s t) (hm : Awaits m s) (hf : m.Familiar s) :
    LeadsWithin m s t := by
  cases h with
  | escape => exact hm.escape
  | named hname => exact hm.named hname hf
  | plain hback hitem => exact hm.plain hback hitem

theorem TakesMembers.reads (h : TakesMembers s t) (hm : Within m s) (hf : m.Familiar s) :
    m.Reads s .outside t := by
  induction h generalizing m with
  | close => exact hm.close
  | member hclose hmember _ ih =>
      obtain ⟨m', hreads, hwithin⟩ := hmember.leads (hm.awaits hclose) hf
      exact hreads.trans (ih hwithin (hreads.familiar hf))

/-- **A walk leaves a class at its `]`.** -/
theorem TakesClass.reads (h : TakesClass s t) (hf : Mode.opened.Familiar s) :
    Mode.opened.Reads s .outside t := by
  cases h with
  | plain hcaret hmember hmembers =>
      obtain ⟨m, hreads, hwithin⟩ := hmember.leads (awaits_opened hcaret) hf
      exact hreads.trans (hmembers.reads hwithin (hreads.familiar hf))
  | @negated s s' t hmember hmembers =>
      have hcaret : Mode.opened.Reads ('^' :: s) .negated s :=
        .step (show Mode.opened.read '^' s = (.member, .negated) from rfl) (by decide)
      obtain ⟨m, hreads, hwithin⟩ := hmember.leads (awaits_negated s) (hcaret.familiar hf)
      have htwo := hcaret.trans hreads
      exact htwo.trans (hmembers.reads hwithin (htwo.familiar hf))

/-! ## Groups read by a walk -/

/-- A comment group in which there is nothing odd holds no syntax at all. -/
theorem IsRemark.isInert {body : Text} (h : IsRemark body)
    (hodd : beginsOddComment ('(' :: '?' :: '#' :: (body ++ ')' :: s)) = false) :
    ∀ c ∈ body, IsInert c := by
  have hall : ∀ c ∈ (body ++ ')' :: s).takeWhile (· ≠ ')'), IsInert c := fun c hc => by
    simpa using List.any_eq_false.mp hodd c hc
  have hclose : ')' ∉ body := by
    intro hmem
    obtain ⟨front, back, rfl, hfront⟩ := List.eq_append_cons_of_mem hmem
    -- the backslash before the first `)` is odd
    have hslash : '\\' ∈ front := List.mem_of_getLast? (h front back rfl)
    rw [List.append_assoc, List.cons_append,
      takeWhile_ne_append fun c hc => ne_of_mem_of_not_mem hc hfront] at hall
    exact (hall '\\' hslash).1.1 rfl
  rwa [takeWhile_ne_append fun c hc => ne_of_mem_of_not_mem hc hclose] at hall

/-- **A walk divides a familiar text as it is divided**: what stands in front of its end leaves the
nesting of groups as it is. -/
theorem Grouped.reads (h : Grouped s t) (hf : Mode.outside.Familiar s) :
    Mode.outside.Reads s .outside t := by
  induction h with
  | refl => exact .refl _ _
  | @inert c s t hc _ ih =>
      have hone : Mode.outside.Reads ([c] ++ s) .outside s :=
        .inert (List.forall_mem_singleton.mpr hc) s
      exact hone.trans (ih (hone.familiar hf))
  | @escape c s t _ ih =>
      have hone := escape_reads c s
      exact hone.trans (ih (hone.familiar hf))
  | @cls s s' t hcls _ ih =>
      have hread : Mode.outside.read '[' s = (.classOpen, .opened) := rfl
      have hopen : Mode.outside.Reads ('[' :: s) .opened s := .step hread (by decide)
      have hone := hopen.trans (hcls.reads (hopen.familiar hf))
      exact hone.trans (ih (hone.familiar hf))
  | @remark body s t hbody _ ih =>
      have hodd := (Bool.or_eq_false_iff.mp (hf [] '(' _ rfl)).1
      have hinert : ∀ c ∈ '?' :: '#' :: body, IsInert c :=
        List.forall_mem_cons.mpr ⟨by decide,
          List.forall_mem_cons.mpr ⟨by decide, hbody.isInert hodd⟩⟩
      have hone : Mode.outside.Reads ('(' :: ('?' :: '#' :: body ++ ')' :: s)) .outside s :=
        .group (.inert hinert (')' :: s))
      exact hone.trans (ih (hone.familiar hf))
  | @group s s' t _ _ ihInside ih =>
      have hone := Mode.Reads.group (ihInside hf.tail)
      exact hone.trans (ih (hone.familiar hf))
  | switch hswitch =>
      have hno := (Bool.or_eq_false_iff.mp (hf [] '(' _ rfl)).2
      rw [hswitch] at hno
      cases hno

/-- **A familiar pattern that can be divided is balanced.** -/
theorem balance_of_grouped {pattern : Text} (h : IsGrouped pattern) (hf : IsFamiliar pattern) :
    balance pattern = .balanced := by
  obtain ⟨u, hu, -, hnesting⟩ := Grouped.reads h hf.outside
  rw [List.append_nil] at hu
  have hfinds := balance_nesting pattern
  rwa [hu, hnesting 0, ← hu] at hfinds

end SecretScan.Pattern
