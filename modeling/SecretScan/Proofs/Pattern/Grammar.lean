import SecretScan.Proofs.Pattern.NamedItem

/-!
# The grammar of patterns

As far as escapes and classes go, a pattern is a row of parts: an escape pair, a class, or any other
character. A class is a `[`, perhaps a `^`, perhaps a literal `]`, then members up to a `]`, and a
member is an escape pair, a named item, or any other character but `]`. Text can run out early: a
last backslash escapes nothing, and a class that is never closed takes the rest of the pattern.

Read like this a text could be split in several ways, so the parts are taken from the left, and the
first form that fits is the one taken. `Part.Leads` and `Member.Leads` say what that demands of the
text behind a part. With it, every text has exactly one reading (`existsUnique_isReading`).
-/

namespace SecretScan.Pattern

/-! ## Parts and what they say about their characters -/

/-- What the grammar says about one character. -/
structure Label where
  /-- The character. -/
  char : Char
  /-- The part it plays. -/
  kind : TokenKind
  /-- How deep it stands: 1 in a class, 2 behind the `[` of a named item up to its `]`, else 0. -/
  depth : Nat
deriving DecidableEq, Repr

/-- A member of a class. -/
inductive Member where
  /-- A backslash and the character that it escapes. -/
  | pair (c : Char)
  /-- A named item; `name` is what stands between its brackets. -/
  | named (name : Text)
  /-- Any other character. -/
  | plain (c : Char)
deriving DecidableEq, Repr

/-- How the members of a class end. -/
inductive Ending where
  /-- With a `]`. -/
  | closed
  /-- With the pattern. -/
  | unclosed
  /-- With a last backslash, which escapes nothing. -/
  | dangling
deriving DecidableEq, Repr

/-- A class of characters as it is written. -/
structure WrittenClass where
  /-- Whether a `^` follows the `[`. -/
  negated : Bool
  /-- Whether a `]` comes first among the members. -/
  literal : Bool
  /-- The other members. -/
  members : List Member
  /-- What comes after them. -/
  ending : Ending
deriving DecidableEq, Repr

/-- A part of a pattern. -/
inductive Part where
  /-- A backslash and the character that it escapes. -/
  | pair (c : Char)
  /-- A last backslash, which escapes nothing. -/
  | dangling
  /-- A class. -/
  | cls (k : WrittenClass)
  /-- Any other character. -/
  | plain (c : Char)
deriving DecidableEq, Repr

namespace Member

/-- The member as it is labelled. -/
def labels : Member → List Label
  | pair c => [⟨'\\', .escape, 1⟩, ⟨c, .escaped, 1⟩]
  | named name =>
    ⟨'[', .classOpen, 1⟩ :: (name.map (⟨·, .member, 2⟩) ++ [⟨']', .classClose, 2⟩])
  | plain c => [⟨c, .member, 1⟩]

/-- The member as it is written. -/
def text : Member → Text
  | pair c => ['\\', c]
  | named name => '[' :: (name ++ [']'])
  | plain c => [c]

/-- `m.Leads s`: taken from the left, `m` is the first member of what is `m` and then `s`. -/
def Leads : Member → Text → Prop
  | pair _, _ => True
  | named name, _ => ItemName name
  | plain c, s =>
    c ≠ '\\' ∧ c ≠ ']' ∧ (c = '[' → ∀ name rest, ItemName name → s ≠ name ++ ']' :: rest)

/-- Each of several members leads in front of those after it and of `s`. -/
def AllLead : List Member → Text → Prop
  | [], _ => True
  | m :: ms, s => m.Leads (ms.flatMap text ++ s) ∧ AllLead ms s

end Member

namespace Ending

/-- The ending as it is labelled. -/
def labels : Ending → List Label
  | closed => [⟨']', .classClose, 1⟩]
  | unclosed => []
  | dangling => [⟨'\\', .escape, 1⟩]

/-- The ending as it is written. -/
def text : Ending → Text
  | closed => [']']
  | unclosed => []
  | dangling => ['\\']

end Ending

namespace WrittenClass

variable (k : WrittenClass)

/-- The `^` of a negated class. -/
def negation : Text :=
  if k.negated then ['^'] else []

/-- The `]` that comes first. -/
def first : Text :=
  if k.literal then [']'] else []

/-- What comes after that. -/
def body : Text :=
  k.members.flatMap Member.text ++ k.ending.text

/-- The class as it is written. -/
def text : Text :=
  '[' :: (k.negation ++ (k.first ++ k.body))

/-- The class as it is labelled. -/
def labels : List Label :=
  ⟨'[', .classOpen, 0⟩ :: (k.negation.map (⟨·, .member, 1⟩) ++ (k.first.map (⟨·, .member, 1⟩)
    ++ (k.members.flatMap Member.labels ++ k.ending.labels)))

/-- Taken from the left, the class is the first part of what is the class and then `s`. -/
structure Leads (s : Text) : Prop where
  /-- A `^` behind the `[` negates the class. -/
  negated : k.negated = false → (k.first ++ (k.body ++ s)).head? ≠ some '^'
  /-- A `]` that comes first is literal. -/
  literal : k.literal = false → (k.body ++ s).head? ≠ some ']'
  /-- The members are taken from the left. -/
  members : Member.AllLead k.members (k.ending.text ++ s)
  /-- A class that is not closed goes to the end. -/
  ending : k.ending ≠ .closed → s = []

end WrittenClass

namespace Part

/-- The part as it is labelled. -/
def labels : Part → List Label
  | pair c => [⟨'\\', .escape, 0⟩, ⟨c, .escaped, 0⟩]
  | dangling => [⟨'\\', .escape, 0⟩]
  | cls k => k.labels
  | plain c => [⟨c, .char, 0⟩]

/-- The part as it is written. -/
def text : Part → Text
  | pair c => ['\\', c]
  | dangling => ['\\']
  | cls k => k.text
  | plain c => [c]

/-- `p.Leads s`: taken from the left, `p` is the first part of what is `p` and then `s`. -/
def Leads : Part → Text → Prop
  | pair _, _ => True
  | dangling, s => s = []
  | cls k, s => k.Leads s
  | plain c, _ => c ≠ '\\' ∧ c ≠ '['

end Part

/-- `IsReading s ps`: taken from the left, the parts of `s` are `ps`. -/
inductive IsReading : Text → List Part → Prop where
  | nil : IsReading [] []
  | cons {p : Part} {s : Text} {ps : List Part} :
      p.Leads s → IsReading s ps → IsReading (p.text ++ s) (p :: ps)

/-! ## Labels cover the text -/

theorem Member.labels_char (m : Member) : m.labels.map Label.char = m.text := by
  cases m with
  | pair c => rfl
  | named name => simp [labels, text, Function.comp_def]
  | plain c => rfl

theorem Ending.labels_char (e : Ending) : e.labels.map Label.char = e.text := by
  cases e <;> rfl

theorem WrittenClass.labels_char (k : WrittenClass) : k.labels.map Label.char = k.text := by
  have hmembers : (k.members.flatMap Member.labels).map Label.char
      = k.members.flatMap Member.text := by
    rw [List.map_flatMap]
    exact congrArg (List.flatMap · k.members) (funext Member.labels_char)
  simp [labels, text, body, Function.comp_def, hmembers, Ending.labels_char]

theorem Part.labels_char (p : Part) : p.labels.map Label.char = p.text := by
  cases p with
  | pair c => rfl
  | dangling => rfl
  | cls k => exact k.labels_char
  | plain c => rfl

/-- The labels of a reading are on the characters of the text, one on each. -/
theorem IsReading.labels_char {s : Text} {ps : List Part} (h : IsReading s ps) :
    (ps.flatMap Part.labels).map Label.char = s := by
  induction h with
  | nil => rfl
  | @cons p s ps _ _ ih => rw [List.flatMap_cons, List.map_append, Part.labels_char, ih]

/-! ## There is a reading -/

/-- After the `[` of a class and what may follow it at once, any text is members and an ending. -/
theorem exists_members (s : Text) : ∃ (ms : List Member) (e : Ending) (rest : Text),
    s = ms.flatMap Member.text ++ (e.text ++ rest) ∧ Member.AllLead ms (e.text ++ rest)
      ∧ (e ≠ .closed → rest = []) := by
  induction hn : s.length using Nat.strongRecOn generalizing s with
  | ind n ih =>
    -- a first member in front of what is left
    have step : ∀ (m : Member) (t : Text), s = m.text ++ t → m.Leads t →
        ∃ (ms : List Member) (e : Ending) (rest : Text),
          s = ms.flatMap Member.text ++ (e.text ++ rest) ∧ Member.AllLead ms (e.text ++ rest)
            ∧ (e ≠ .closed → rest = []) := by
      intro m t hs hm
      have hlt : t.length < n := by
        rw [← hn, hs, List.length_append]
        cases m <;> simp [Member.text]
      obtain ⟨ms, e, rest, rfl, hms, hrest⟩ := ih t.length hlt t rfl
      exact ⟨m :: ms, e, rest, by rw [hs]; simp, ⟨hm, hms⟩, hrest⟩
    cases s with
    | nil => exact ⟨[], .unclosed, [], rfl, trivial, fun _ => rfl⟩
    | cons c t =>
        by_cases hback : c = '\\'
        · subst hback
          cases t with
          | nil => exact ⟨[], .dangling, [], rfl, trivial, fun _ => rfl⟩
          | cons c t => exact step (.pair c) t rfl trivial
        by_cases hclose : c = ']'
        · subst hclose
          exact ⟨[], .closed, t, rfl, trivial, fun h => absurd rfl h⟩
        by_cases hitem : c = '[' ∧ ∃ name rest, ItemName name ∧ t = name ++ ']' :: rest
        · obtain ⟨rfl, name, rest, hname, rfl⟩ := hitem
          exact step (.named name) rest (by simp [Member.text]) hname
        · refine step (.plain c) t rfl ⟨hback, hclose, fun hc name rest hname ht => ?_⟩
          exact hitem ⟨hc, name, rest, hname, ht⟩

/-- A character that may come first does so or not. -/
theorem exists_optional (c : Char) (t : Text) : ∃ (present : Bool) (u : Text),
    t = (if present then [c] else []) ++ u ∧ (present = false → u.head? ≠ some c) := by
  cases t with
  | nil => exact ⟨false, [], rfl, fun _ => nofun⟩
  | cons d u =>
      by_cases h : d = c
      · exact ⟨true, u, by rw [h]; rfl, nofun⟩
      · exact ⟨false, d :: u, rfl, fun _ e => h (Option.some.inj e)⟩

/-- A `[` outside any class begins a class. -/
theorem exists_writtenClass (t : Text) :
    ∃ (k : WrittenClass) (rest : Text), '[' :: t = k.text ++ rest ∧ k.Leads rest := by
  obtain ⟨negated, t, rfl, hnegated⟩ := exists_optional '^' t
  obtain ⟨literal, t, rfl, hliteral⟩ := exists_optional ']' t
  obtain ⟨ms, e, rest, rfl, hms, hrest⟩ := exists_members t
  refine ⟨⟨negated, literal, ms, e⟩, rest, ?_, ?_, ?_, hms, hrest⟩
  · simp [WrittenClass.text, WrittenClass.negation, WrittenClass.first, WrittenClass.body]
  · simpa [WrittenClass.first, WrittenClass.body] using hnegated
  · simpa [WrittenClass.body] using hliteral

theorem exists_isReading (s : Text) : ∃ ps, IsReading s ps := by
  induction hn : s.length using Nat.strongRecOn generalizing s with
  | ind n ih =>
    have step : ∀ (p : Part) (t : Text), s = p.text ++ t → p.Leads t → ∃ ps, IsReading s ps := by
      intro p t hs hp
      have hlt : t.length < n := by
        rw [← hn, hs, List.length_append]
        cases p <;> simp [Part.text, WrittenClass.text]
      obtain ⟨ps, hps⟩ := ih t.length hlt t rfl
      exact ⟨p :: ps, hs ▸ .cons hp hps⟩
    cases s with
    | nil => exact ⟨[], .nil⟩
    | cons c t =>
        by_cases hback : c = '\\'
        · subst hback
          cases t with
          | nil => exact step .dangling [] rfl rfl
          | cons c t => exact step (.pair c) t rfl trivial
        by_cases hopen : c = '['
        · subst hopen
          obtain ⟨k, rest, hk, hleads⟩ := exists_writtenClass t
          exact step (.cls k) rest hk hleads
        · exact step (.plain c) t rfl ⟨hback, hopen⟩

/-! ## There is no other reading -/

theorem ItemName.eq_of_append {name name' s s' : Text} (hname : ItemName name)
    (hname' : ItemName name') (h : name ++ ']' :: s = name' ++ ']' :: s') :
    name = name' ∧ s = s' :=
  eq_of_first_close (fun c hc => (hname.inert c hc).1) (fun c hc => (hname'.inert c hc).1) h

/-- The first member is determined. -/
theorem Member.eq_of_leads {m m' : Member} {s s' : Text} (hm : m.Leads s) (hm' : m'.Leads s')
    (h : m.text ++ s = m'.text ++ s') : m = m' ∧ s = s' := by
  cases m with
  | pair c =>
      cases m' with
      | pair c' =>
          obtain ⟨-, h⟩ := List.cons.inj h
          obtain ⟨rfl, rfl⟩ := List.cons.inj h
          exact ⟨rfl, rfl⟩
      | named name => exact absurd (List.cons.inj h).1 (by decide)
      | plain c' => exact absurd (List.cons.inj h).1.symm hm'.1
  | named name =>
      cases m' with
      | pair c' => exact absurd (List.cons.inj h).1 (by decide)
      | named name' =>
          simp only [text, List.cons_append, List.append_assoc, List.nil_append] at h
          obtain ⟨rfl, rfl⟩ := hm.eq_of_append hm' (List.cons.inj h).2
          exact ⟨rfl, rfl⟩
      | plain c' =>
          simp only [text, List.cons_append, List.append_assoc, List.nil_append] at h
          obtain ⟨hc, hs⟩ := List.cons.inj h
          exact absurd hs.symm (hm'.2.2 hc.symm name s hm)
  | plain c =>
      cases m' with
      | pair c' => exact absurd (List.cons.inj h).1 hm.1
      | named name' =>
          simp only [text, List.cons_append, List.append_assoc, List.nil_append] at h
          obtain ⟨hc, hs⟩ := List.cons.inj h
          exact absurd hs (hm.2.2 hc name' s' hm')
      | plain c' =>
          obtain ⟨rfl, rfl⟩ := List.cons.inj h
          exact ⟨rfl, rfl⟩

/-- Where the members end no further one begins. -/
theorem Member.not_leads_ending {m : Member} {e : Ending} {s t : Text} (hm : m.Leads s)
    (he : e ≠ .closed → t = []) : e.text ++ t ≠ m.text ++ s := by
  intro h
  cases e with
  | closed =>
      cases m with
      | pair c => exact absurd (List.cons.inj h).1 (by decide)
      | named name => exact absurd (List.cons.inj h).1 (by decide)
      | plain c => exact hm.2.1 (List.cons.inj h).1.symm
  | unclosed =>
      rw [he nofun] at h
      cases m <;> cases h
  | dangling =>
      rw [he nofun] at h
      cases m with
      | pair c => cases h
      | named name => exact absurd (List.cons.inj h).1 (by decide)
      | plain c => exact hm.1 (List.cons.inj h).1.symm

/-- The members and their ending are determined. -/
theorem Member.allLead_unique {ms ms' : List Member} {e e' : Ending} {s s' : Text}
    (hms : AllLead ms (e.text ++ s)) (hms' : AllLead ms' (e'.text ++ s'))
    (he : e ≠ .closed → s = []) (he' : e' ≠ .closed → s' = [])
    (h : ms.flatMap text ++ (e.text ++ s) = ms'.flatMap text ++ (e'.text ++ s')) :
    ms = ms' ∧ e = e' ∧ s = s' := by
  induction ms generalizing ms' with
  | nil =>
      cases ms' with
      | nil =>
          refine ⟨rfl, ?_⟩
          cases e <;> cases e' <;> simp_all [Ending.text]
      | cons m' ms' =>
          rw [List.flatMap_cons, List.append_assoc] at h
          exact absurd h (not_leads_ending hms'.1 he)
  | cons m ms ih =>
      cases ms' with
      | nil =>
          rw [List.flatMap_cons, List.append_assoc] at h
          exact absurd h.symm (not_leads_ending hms.1 he')
      | cons m' ms' =>
          rw [List.flatMap_cons, List.append_assoc, List.flatMap_cons, List.append_assoc] at h
          obtain ⟨rfl, hrest⟩ := eq_of_leads hms.1 hms'.1 h
          obtain ⟨rfl, hend⟩ := ih hms.2 hms'.2 hrest
          exact ⟨rfl, hend⟩

/-- Whether a character that may come first does so is determined. -/
theorem optional_unique {c : Char} {present present' : Bool} {u u' : Text}
    (h : (if present then [c] else []) ++ u = (if present' then [c] else []) ++ u')
    (hu : present = false → u.head? ≠ some c) (hu' : present' = false → u'.head? ≠ some c) :
    present = present' ∧ u = u' := by
  cases present with
  | false =>
      cases present' with
      | false => exact ⟨rfl, h⟩
      | true => exact absurd (congrArg List.head? h) (hu rfl)
  | true =>
      cases present' with
      | false => exact absurd (congrArg List.head? h.symm) (hu' rfl)
      | true => exact ⟨rfl, (List.cons.inj h).2⟩

/-- The first class is determined. -/
theorem WrittenClass.eq_of_leads {k k' : WrittenClass} {s s' : Text} (hk : k.Leads s)
    (hk' : k'.Leads s') (h : k.text ++ s = k'.text ++ s') : k = k' ∧ s = s' := by
  obtain ⟨negated, literal, ms, e⟩ := k
  obtain ⟨negated', literal', ms', e'⟩ := k'
  simp only [text, List.cons_append, List.append_assoc] at h
  obtain ⟨rfl, h⟩ := optional_unique (List.cons.inj h).2 hk.negated hk'.negated
  obtain ⟨rfl, h⟩ := optional_unique h hk.literal hk'.literal
  simp only [body, List.append_assoc] at h
  obtain ⟨rfl, rfl, rfl⟩ :=
    Member.allLead_unique hk.members hk'.members hk.ending hk'.ending h
  exact ⟨rfl, rfl⟩

/-- The first part is determined. -/
theorem Part.eq_of_leads {p p' : Part} {s s' : Text} (hp : p.Leads s) (hp' : p'.Leads s')
    (h : p.text ++ s = p'.text ++ s') : p = p' ∧ s = s' := by
  cases p with
  | pair c =>
      cases p' with
      | pair c' =>
          obtain ⟨-, h⟩ := List.cons.inj h
          obtain ⟨rfl, rfl⟩ := List.cons.inj h
          exact ⟨rfl, rfl⟩
      | dangling =>
          obtain rfl : s' = [] := hp'
          cases h
      | cls k' => exact absurd (List.cons.inj h).1 (by decide)
      | plain c' => exact absurd (List.cons.inj h).1.symm hp'.1
  | dangling =>
      obtain rfl : s = [] := hp
      cases p' with
      | pair c' => cases h
      | dangling => exact ⟨rfl, (List.cons.inj h).2⟩
      | cls k' => exact absurd (List.cons.inj h).1 (by decide)
      | plain c' => exact absurd (List.cons.inj h).1.symm hp'.1
  | cls k =>
      cases p' with
      | pair c' => exact absurd (List.cons.inj h).1 (by decide)
      | dangling => exact absurd (List.cons.inj h).1 (by decide)
      | cls k' =>
          obtain ⟨rfl, rfl⟩ := WrittenClass.eq_of_leads hp hp' h
          exact ⟨rfl, rfl⟩
      | plain c' => exact absurd (List.cons.inj h).1.symm hp'.2
  | plain c =>
      cases p' with
      | pair c' => exact absurd (List.cons.inj h).1 hp.1
      | dangling => exact absurd (List.cons.inj h).1 hp.1
      | cls k' => exact absurd (List.cons.inj h).1 hp.2
      | plain c' =>
          obtain ⟨rfl, rfl⟩ := List.cons.inj h
          exact ⟨rfl, rfl⟩

theorem Part.text_ne_nil (p : Part) : p.text ≠ [] := by
  cases p <;> exact List.cons_ne_nil _ _

theorem IsReading.unique {s : Text} {ps ps' : List Part} (h : IsReading s ps)
    (h' : IsReading s ps') : ps = ps' := by
  induction h generalizing ps' with
  | nil =>
      generalize ht : ([] : Text) = t at h'
      cases h' with
      | nil => rfl
      | @cons p _ _ _ _ => exact absurd (List.append_eq_nil_iff.mp ht.symm).1 p.text_ne_nil
  | @cons p s ps hp _ ih =>
      generalize ht : p.text ++ s = t at h'
      cases h' with
      | nil => exact absurd (List.append_eq_nil_iff.mp ht).1 p.text_ne_nil
      | cons hp' h' =>
          obtain ⟨rfl, rfl⟩ := Part.eq_of_leads hp hp' ht
          rw [ih h']

/-- **Taken from the left, every text has exactly one reading.** -/
theorem existsUnique_isReading (s : Text) : ∃! ps, IsReading s ps := by
  obtain ⟨ps, h⟩ := exists_isReading s
  exact ⟨ps, h, fun _ h' => h'.unique h⟩

end SecretScan.Pattern
