import Mathlib.Data.List.TakeWhile
import SecretScan.Proofs.Finding.Location
import SecretScan.Proofs.Text.Ascii

/-!
# Locations that are fetched again

A file may be fetched again under the same address with another query or fragment, and its findings
must not count twice then. So what follows the first `?` or `#` of a location must not matter for
its normal form. It does not matter for how the location is taken apart (`parts_append`): a scheme
holds neither character, the slashes in front of an authority are not followed by one, and an
authority ends there. It does not matter for the rest either, which is cut (`normalize_append`).

A normal form is in normal form itself. Where a location is only cut, this is the same law once
more: the location is its normal form with something behind it. An address is put together from its
parts, and the parser finds the same parts in it again (`parts_address`).
-/

namespace SecretScan.Location

/-- What may come behind a location when it is fetched again. -/
inductive IsQuery : Text → Prop where
  | none : IsQuery []
  | query (s : Text) : IsQuery ('?' :: s)
  | fragment (s : Text) : IsQuery ('#' :: s)

namespace IsQuery

variable {q : Text} {p : Char → Bool} (hq : IsQuery q)
include hq

theorem takeWhile_eq_nil (hquery : p '?' = false) (hfragment : p '#' = false) :
    q.takeWhile p = [] := by
  cases hq with
  | none => rfl
  | query s => exact List.takeWhile_cons_of_neg (by rw [hquery]; nofun)
  | fragment s => exact List.takeWhile_cons_of_neg (by rw [hfragment]; nofun)

/-- Something taken from the front does not reach into the query. -/
theorem takeWhile_append (hquery : p '?' = false) (hfragment : p '#' = false) (t : Text) :
    (t ++ q).takeWhile p = t.takeWhile p := by
  rw [List.takeWhile_append, hq.takeWhile_eq_nil hquery hfragment, List.append_nil]
  split
  · next hlength => exact ((List.takeWhile_prefix p).eq_of_length hlength).symm
  · rfl

theorem dropWhile_append (hquery : p '?' = false) (hfragment : p '#' = false) (t : Text) :
    (t ++ q).dropWhile p = t.dropWhile p ++ q := by
  induction t with
  | nil =>
      cases hq with
      | none => rfl
      | query s => exact List.dropWhile_cons_of_neg (by rw [hquery]; nofun)
      | fragment s => exact List.dropWhile_cons_of_neg (by rw [hfragment]; nofun)
  | cons c t ih =>
      rw [List.cons_append, List.dropWhile_cons, List.dropWhile_cons, ih]
      split <;> rfl

theorem filter (hquery : p '?' = true) (hfragment : p '#' = true) : IsQuery (q.filter p) := by
  cases hq with
  | none => exact .none
  | query s =>
      rw [List.filter_cons_of_pos hquery]
      exact .query _
  | fragment s =>
      rw [List.filter_cons_of_pos hfragment]
      exact .fragment _

end IsQuery

/-! ## The part in front of query and fragment -/

/-- What comes before the first `?` or `#`. -/
def bare (t : Text) : Text :=
  t.takeWhile fun c => c ≠ '?' && c ≠ '#'

theorem before_before (t : Text) : (t.before '?').before '#' = bare t := by
  unfold Text.before bare
  rw [List.takeWhile_takeWhile]
  congr 1
  funext c
  simp [Bool.and_comm]

theorem withoutQuery_eq (t : Text) : withoutQuery t = bare t := by
  unfold withoutQuery Text.before bare
  rw [List.takeWhile_takeWhile]
  congr 1
  funext c
  simp

theorem bare_append {q : Text} (hq : IsQuery q) (t : Text) : bare (t ++ q) = bare t :=
  hq.takeWhile_append rfl rfl t

/-- A location is its bare part and a query. -/
theorem exists_query (t : Text) : ∃ q, IsQuery q ∧ t = bare t ++ q := by
  refine ⟨t.dropWhile fun c => c ≠ '?' && c ≠ '#', ?_, List.takeWhile_append_dropWhile.symm⟩
  have hhead := List.head?_dropWhile_not (fun c => c ≠ '?' && c ≠ '#') t
  cases hrest : t.dropWhile fun c => c ≠ '?' && c ≠ '#' with
  | nil => exact .none
  | cons c s =>
      rw [hrest] at hhead
      have hc : c = '?' ∨ c = '#' := by
        have hnot : (c ≠ '?' && c ≠ '#') = false := by simpa using hhead
        grind
      rcases hc with rfl | rfl
      · exact .query s
      · exact .fragment s

theorem bare_bare (t : Text) : bare (bare t) = bare t := by
  obtain ⟨q, hq, ht⟩ := exists_query t
  calc bare (bare t) = bare (bare t ++ q) := (bare_append hq (bare t)).symm
    _ = bare t := by rw [← ht]

/-! ## What the parser sees -/

theorem visible_append {q : Text} (hq : IsQuery q) (t : Text) :
    ∃ q', IsQuery q' ∧ visible (t ++ q) = visible t ++ q' := by
  refine ⟨q.filter fun c => c ≠ '\t' && c ≠ '\r' && c ≠ '\n', hq.filter rfl rfl, ?_⟩
  unfold visible
  rw [hq.dropWhile_append (by decide) (by decide), List.filter_append]

/-- A letter and then characters that may occur in a scheme. -/
def IsScheme (name : Text) : Prop :=
  (∃ c rest, name = c :: rest ∧ c.isAlpha = true) ∧ ∀ c ∈ name, isSchemeChar c = true

theorem splitScheme_of_scheme {name : Text} (h : IsScheme name) (rest : Text) :
    splitScheme (name ++ ':' :: rest) = (name.map Char.toLower, rest) := by
  obtain ⟨⟨c, tail, rfl, hc⟩, hall⟩ := h
  have hcolon : ∀ d ∈ c :: tail, decide (d ≠ ':') = true := by
    intro d hd
    rw [decide_eq_true_eq]
    rintro rfl
    exact absurd (hall ':' hd) (by decide)
  have hbefore : Text.before ((c :: tail) ++ ':' :: rest) ':' = c :: tail := by
    unfold Text.before
    rw [List.takeWhile_append_of_pos hcolon, List.takeWhile_cons_of_neg (by decide),
      List.append_nil]
  have hscheme : (c.isAlpha && (c :: tail).all isSchemeChar) = true := by
    rw [hc, List.all_eq_true.mpr hall]
    rfl
  unfold splitScheme
  dsimp only
  rw [hbefore, List.drop_left]
  exact if_pos hscheme

theorem splitScheme_of_none {t : Text}
    (h : ∀ name rest, IsScheme name → t ≠ name ++ ':' :: rest) : splitScheme t = ([], t) := by
  have hsplit : t.before ':' ++ t.drop (t.before ':').length = t :=
    List.prefix_iff_eq_append.mp (List.takeWhile_prefix _)
  unfold splitScheme
  dsimp only
  split
  · next c tail rest hbefore hdrop =>
      split
      · next hscheme =>
          rw [hdrop, hbefore] at hsplit
          rw [Bool.and_eq_true, hbefore, List.all_eq_true] at hscheme
          exact absurd hsplit.symm (h _ rest ⟨⟨c, tail, rfl, hscheme.1⟩, hscheme.2⟩)
      · rfl
  · rfl

theorem splitScheme_append {q : Text} (hq : IsQuery q) (t : Text) :
    splitScheme (t ++ q) = ((splitScheme t).1, (splitScheme t).2 ++ q) := by
  by_cases h : ∃ name rest, IsScheme name ∧ t = name ++ ':' :: rest
  · obtain ⟨name, rest, hname, rfl⟩ := h
    rw [splitScheme_of_scheme hname rest, List.append_assoc, List.cons_append,
      splitScheme_of_scheme hname]
  · have hnone : ∀ name rest, IsScheme name → t ≠ name ++ ':' :: rest :=
      fun name rest hname ht => h ⟨name, rest, hname, ht⟩
    rw [splitScheme_of_none hnone]
    refine splitScheme_of_none fun name rest hname ht => ?_
    rcases List.append_eq_append_iff.mp ht with ⟨middle, rfl, hmiddle⟩ | ⟨middle, rfl, hmiddle⟩
    · -- the scheme would hold the `?` or the `#`, or end in front of it
      cases middle with
      | nil => cases hq <;> cases hmiddle
      | cons d middle =>
          have hd : isSchemeChar d = true := hname.2 d (by simp)
          cases hq with
          | none => cases hmiddle
          | query s =>
              obtain ⟨rfl, -⟩ := List.cons.inj hmiddle
              exact absurd hd (by decide)
          | fragment s =>
              obtain ⟨rfl, -⟩ := List.cons.inj hmiddle
              exact absurd hd (by decide)
    · cases middle with
      | nil => cases hq <;> cases hmiddle
      | cons d middle =>
          obtain ⟨rfl, -⟩ := List.cons.inj hmiddle
          exact hnone name middle hname rfl

/-- Whether an authority goes on with `c`. -/
def inAuthority (c : Char) : Bool :=
  c ≠ '/' && c ≠ '?' && c ≠ '#'

theorem splitAuthority_slashes (t : Text) :
    splitAuthority ('/' :: '/' :: t) = (t.takeWhile inAuthority, t.dropWhile inAuthority) := by
  have hdrop : t.drop (t.takeWhile inAuthority).length = t.dropWhile inAuthority := by
    have hsplit : t.takeWhile inAuthority ++ t.dropWhile inAuthority = t :=
      List.takeWhile_append_dropWhile
    calc t.drop (t.takeWhile inAuthority).length
        = (t.takeWhile inAuthority ++ t.dropWhile inAuthority).drop
            (t.takeWhile inAuthority).length := by rw [hsplit]
      _ = t.dropWhile inAuthority := List.drop_left
  show (t.takeWhile inAuthority, t.drop (t.takeWhile inAuthority).length) = _
  rw [hdrop]

theorem splitAuthority_append {q : Text} (hq : IsQuery q) (t : Text) :
    splitAuthority (t ++ q) = ((splitAuthority t).1, (splitAuthority t).2 ++ q) := by
  by_cases h : ['/', '/'] <+: t
  · obtain ⟨rest, rfl⟩ := h
    show splitAuthority ('/' :: '/' :: (rest ++ q)) = ((splitAuthority ('/' :: '/' :: rest)).1,
      (splitAuthority ('/' :: '/' :: rest)).2 ++ q)
    rw [splitAuthority_slashes, splitAuthority_slashes, hq.takeWhile_append rfl rfl,
      hq.dropWhile_append rfl rfl]
  · have h' : ¬ ['/', '/'] <+: t ++ q := by
      rintro ⟨rest, hrest⟩
      cases t with
      | nil => cases hq <;> cases hrest
      | cons c t =>
          cases t with
          | nil => cases hq <;> cases hrest
          | cons d t =>
              obtain ⟨rfl, hd⟩ := List.cons.inj hrest
              obtain ⟨rfl, -⟩ := List.cons.inj hd
              exact h ⟨t, rfl⟩
    rw [splitAuthority_of_path h, splitAuthority_of_path h']

theorem parts_eq (t : Text) : parts t
    = (checkAuthority (splitAuthority (splitScheme (visible t)).2).1).map fun _ =>
      ⟨(splitScheme (visible t)).1, (splitAuthority (splitScheme (visible t)).2).1,
        bare (splitAuthority (splitScheme (visible t)).2).2⟩ := by
  rw [← withoutQuery_eq]
  unfold parts
  dsimp only
  cases checkAuthority (splitAuthority (splitScheme (visible t)).2).1 <;> rfl

/-- **What follows a `?` or `#` does not matter for how a location is taken apart.** -/
theorem parts_append {q : Text} (hq : IsQuery q) (t : Text) : parts (t ++ q) = parts t := by
  obtain ⟨q', hq', hvisible⟩ := visible_append hq t
  rw [parts_eq, parts_eq, hvisible, splitScheme_append hq', splitAuthority_append hq',
    bare_append hq']

/-! ## The normal form -/

/-- What the parts of a location make of it. -/
def formOf (t : Text) (p : Parts) : Text :=
  if p.scheme.isEmpty || p.authority.isEmpty then bare t
  else p.scheme ++ "://".toList ++ p.authority ++ p.path

theorem normalize_eq (t : Text) : normalize t = (parts t).map (formOf t) := by
  cases t with
  | nil => rfl
  | cons c t =>
      unfold normalize formOf
      rw [← before_before, if_neg nofun]
      cases parts (c :: t) with
      | error e => rfl
      | ok p => exact (apply_ite Except.ok _ _ _).symm

/-- **What follows a `?` or `#` does not matter for the normal form.** -/
theorem normalize_append {q : Text} (hq : IsQuery q) (t : Text) :
    normalize (t ++ q) = normalize t := by
  have hform : formOf (t ++ q) = formOf t := by
    funext p
    unfold formOf
    rw [bare_append hq]
  rw [normalize_eq, normalize_eq, parts_append hq, hform]

theorem normalize_bare (t : Text) : normalize (bare t) = normalize t := by
  obtain ⟨q, hq, ht⟩ := exists_query t
  calc normalize (bare t) = normalize (bare t ++ q) := (normalize_append hq (bare t)).symm
    _ = normalize t := by rw [← ht]

/-! ## Addresses -/

theorem isSchemeChar_ascii {c : Char} (h : isSchemeChar c = true) : c.toNat < 128 := by
  simp only [isSchemeChar, Bool.or_eq_true, decide_eq_true_eq] at h
  rcases h with ((h | rfl) | rfl) | rfl
  · exact Text.toNat_lt_of_isAlphanum h
  · decide
  · decide
  · decide

theorem isSchemeChar_visible {c : Char} (h : isSchemeChar c = true) : 0x20 < c.toNat := by
  have hascii := isSchemeChar_ascii h
  revert h
  exact Text.forall_ascii (P := fun c => isSchemeChar c = true → 0x20 < c.toNat) (by decide) hascii

theorem toLower_of_isSchemeChar {c : Char} (h : isSchemeChar c = true) :
    (c.isAlpha = true → c.toLower.isAlpha = true) ∧ isSchemeChar c.toLower = true
      ∧ c.toLower.toLower = c.toLower := by
  have hascii := isSchemeChar_ascii h
  revert h
  exact Text.forall_ascii (P := fun c => isSchemeChar c = true →
    (c.isAlpha = true → c.toLower.isAlpha = true) ∧ isSchemeChar c.toLower = true
      ∧ c.toLower.toLower = c.toLower) (by decide) hascii

/-- The lower case of a scheme is a scheme, in lower case. -/
theorem IsScheme.lower {name : Text} (h : IsScheme name) :
    IsScheme (name.map Char.toLower) ∧ (name.map Char.toLower).map Char.toLower
      = name.map Char.toLower := by
  obtain ⟨⟨c, tail, rfl, hc⟩, hall⟩ := h
  have hlaws := fun d hd => toLower_of_isSchemeChar (hall d hd)
  refine ⟨⟨⟨c.toLower, tail.map Char.toLower, rfl, ?_⟩, fun d hd => ?_⟩, ?_⟩
  · exact (hlaws c List.mem_cons_self).1 hc
  · obtain ⟨e, he, rfl⟩ := List.mem_map.mp hd
    exact (hlaws e he).2.1
  · rw [List.map_map]
    exact List.map_congr_left fun d hd => (hlaws d hd).2.2

/-- How the scheme of a location reads. -/
theorem splitScheme_isScheme {t : Text} (h : (splitScheme t).1 ≠ []) :
    IsScheme (splitScheme t).1 ∧ (splitScheme t).1.map Char.toLower = (splitScheme t).1 := by
  by_cases hscheme : ∃ name rest, IsScheme name ∧ t = name ++ ':' :: rest
  · obtain ⟨name, rest, hname, rfl⟩ := hscheme
    rw [splitScheme_of_scheme hname]
    exact hname.lower
  · rw [splitScheme_of_none fun name rest hname ht => hscheme ⟨name, rest, hname, ht⟩] at h
    exact absurd rfl h

theorem splitAuthority_of_split {authority s : Text} (ha : ∀ c ∈ authority, inAuthority c = true)
    (hs : s.takeWhile inAuthority = []) :
    splitAuthority ('/' :: '/' :: (authority ++ s)) = (authority, s) := by
  have hdrop : s.dropWhile inAuthority = s := by
    have hsplit : s.takeWhile inAuthority ++ s.dropWhile inAuthority = s :=
      List.takeWhile_append_dropWhile
    rw [hs] at hsplit
    exact hsplit
  rw [splitAuthority_slashes, List.takeWhile_append_of_pos ha, List.dropWhile_append_of_pos ha, hs,
    hdrop, List.append_nil]

/-- An authority stands behind two slashes and goes up to where none goes on. -/
theorem splitAuthority_split {t : Text} (h : (splitAuthority t).1 ≠ []) :
    t = '/' :: '/' :: ((splitAuthority t).1 ++ (splitAuthority t).2)
      ∧ (∀ c ∈ (splitAuthority t).1, inAuthority c = true)
      ∧ (splitAuthority t).2.takeWhile inAuthority = [] := by
  by_cases hslashes : ['/', '/'] <+: t
  · obtain ⟨rest, rfl⟩ := hslashes
    have hsplit : splitAuthority (['/', '/'] ++ rest)
        = (rest.takeWhile inAuthority, rest.dropWhile inAuthority) := splitAuthority_slashes rest
    have hstop : (rest.dropWhile inAuthority).takeWhile inAuthority = [] := by
      rw [List.takeWhile_eq_nil_iff]
      intro hl
      exact List.dropWhile_get_zero_not inAuthority rest hl
    rw [hsplit]
    refine ⟨?_, fun c hc => List.mem_takeWhile_imp hc, hstop⟩
    rw [List.takeWhile_append_dropWhile]
    rfl
  · rw [splitAuthority_of_path hslashes] at h
    exact absurd rfl h

/-- The parser sees all of a scheme and of what it has seen before. -/
theorem visible_address {t name rest : Text} (hname : IsScheme name)
    (hrest : ∀ d ∈ rest, d ∈ visible t) : visible (name ++ ':' :: rest) = name ++ ':' :: rest := by
  have hkept : ∀ d : Char, 0x20 < d.toNat → (d ≠ '\t' && d ≠ '\r' && d ≠ '\n') = true := by
    intro d hd
    have hne : ∀ e : Char, e.toNat ≤ 0x20 → d ≠ e := by
      rintro e he rfl
      omega
    simp [hne '\t' (by decide), hne '\r' (by decide), hne '\n' (by decide)]
  obtain ⟨⟨c, tail, rfl, -⟩, hchars⟩ := hname
  have hgreat := fun d hd => isSchemeChar_visible (hchars d hd)
  have hfront : ¬ (c.toNat ≤ 0x20) := Nat.not_le.mpr (hgreat c List.mem_cons_self)
  unfold visible
  rw [List.cons_append, List.dropWhile_cons_of_neg (by rw [decide_eq_true_eq]; exact hfront),
    ← List.cons_append, List.filter_eq_self]
  intro d hd
  rcases List.mem_append.mp hd with hd | hd
  · exact hkept d (hgreat d hd)
  · rcases List.mem_cons.mp hd with rfl | hd
    · rfl
    · exact (List.mem_filter.mp (hrest d hd)).2

/-- **The parser finds the parts of an address in what is put together from them.** -/
theorem parts_address {t : Text} {p : Parts} (h : parts t = .ok p) (hscheme : p.scheme ≠ [])
    (hauthority : p.authority ≠ []) :
    parts (p.scheme ++ "://".toList ++ p.authority ++ p.path) = .ok p := by
  rw [parts_eq] at h
  cases hcheck : checkAuthority (splitAuthority (splitScheme (visible t)).2).1 with
  | error e =>
      rw [hcheck] at h
      cases h
  | ok u =>
      rw [hcheck] at h
      obtain rfl := Except.ok.inj h
      obtain ⟨hname, hlower⟩ := splitScheme_isScheme hscheme
      obtain ⟨hrest, hall, hstop⟩ := splitAuthority_split hauthority
      have hseen := (splitScheme_isSuffix (visible t)).subset
      clear hscheme hauthority h
      dsimp only
      generalize (splitScheme (visible t)).1 = name at *
      generalize (splitScheme (visible t)).2 = rest at *
      generalize (splitAuthority rest).1 = authority at *
      generalize (splitAuthority rest).2 = tail at *
      have hpath : (bare tail).takeWhile inAuthority = [] := by
        obtain ⟨q, hq, htail⟩ := exists_query tail
        have hcut := hq.takeWhile_append (p := inAuthority) rfl rfl (bare tail)
        rw [← htail, hstop] at hcut
        exact hcut.symm
      have hfront : '/' :: '/' :: (authority ++ bare tail) <+: rest := by
        obtain ⟨s, hs⟩ : bare tail <+: tail := List.takeWhile_prefix _
        exact ⟨s, by rw [hrest]; simp [hs]⟩
      have htext : name ++ "://".toList ++ authority ++ bare tail
          = name ++ ':' :: '/' :: '/' :: (authority ++ bare tail) := by simp
      have hvisible := visible_address hname fun d hd => hseen (hfront.subset hd)
      rw [parts_eq, htext, hvisible, splitScheme_of_scheme hname, hlower,
        splitAuthority_of_split hall hpath]
      dsimp only
      rw [hcheck, bare_bare]
      rfl

/-! ## Collapsing -/

theorem normalize_formOf {t : Text} {p : Parts} (h : parts t = .ok p) :
    normalize (formOf t p) = .ok (formOf t p) := by
  by_cases hp : (p.scheme.isEmpty || p.authority.isEmpty) = true
  · have hform : formOf t p = bare t := if_pos hp
    calc normalize (formOf t p) = normalize t := by rw [hform, normalize_bare]
      _ = .ok (formOf t p) := by rw [normalize_eq, h]; rfl
  · have hform : ∀ s, formOf s p = p.scheme ++ "://".toList ++ p.authority ++ p.path :=
      fun s => if_neg hp
    rw [Bool.or_eq_true, List.isEmpty_iff, List.isEmpty_iff, not_or] at hp
    rw [normalize_eq, hform t, parts_address h hp.1 hp.2]
    exact congrArg Except.ok (hform _)

/--
**Refetches of a file collapse, and nothing more happens on a second pass.**

A location that can be taken apart has a normal form. The location with a query or a fragment behind
it has the same one, whatever it holds already, and the normal form is its own normal form.
-/
theorem normalize_collapses {t : Text} {p : Parts} (h : parts t = .ok p) :
    ∃ n, normalize t = .ok n ∧ (∀ q, IsQuery q → normalize (t ++ q) = .ok n)
      ∧ normalize n = .ok n := by
  have hform : normalize t = .ok (formOf t p) := by
    rw [normalize_eq, h]
    rfl
  refine ⟨formOf t p, hform, fun q hq => ?_, normalize_formOf h⟩
  rw [normalize_append hq, hform]

/-- Controls in front and inside, upper case, a name, a port, and a fragment before the query. -/
theorem normalize_collapses_address :
    parts "\x01HT\tTP://me@Host:80/a//b#c?d".toList
        = .ok ⟨"http".toList, "me@Host:80".toList, "/a//b".toList⟩
      ∧ IsQuery "?e#f".toList
      ∧ ∃ n, normalize "\x01HT\tTP://me@Host:80/a//b#c?d".toList = .ok n
        ∧ (∀ q, IsQuery q → normalize ("\x01HT\tTP://me@Host:80/a//b#c?d".toList ++ q) = .ok n)
        ∧ normalize n = .ok n := by
  have hparts : parts "\x01HT\tTP://me@Host:80/a//b#c?d".toList
      = .ok ⟨"http".toList, "me@Host:80".toList, "/a//b".toList⟩ := by rfl
  exact ⟨hparts, .query _, normalize_collapses hparts⟩

end SecretScan.Location
