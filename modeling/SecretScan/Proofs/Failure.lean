import Mathlib.Data.List.Forall2

/-!
# Failing

What it takes for a computation to fail, or not to: one that goes on from another fails in the one
or the other, and one that goes through a list fails with the first failure in it (`FirstFails`).
-/

namespace SecretScan

section

variable {ε ε' α β : Type} {x : Except ε α} {f : α → Except ε β} {e : ε} {a : α} {b : β}

theorem bind_eq_ok : (x >>= f) = .ok b ↔ ∃ a, x = .ok a ∧ f a = .ok b := by
  cases x with
  | error e => exact ⟨nofun, fun ⟨_, h, _⟩ => nomatch h⟩
  | ok a => exact ⟨fun h => ⟨a, rfl, h⟩, fun ⟨_, h, h'⟩ => Except.ok.inj h ▸ h'⟩

theorem bind_eq_error : (x >>= f) = .error e ↔ x = .error e ∨ ∃ a, x = .ok a ∧ f a = .error e := by
  cases x with
  | error e' =>
      have hbind : (Except.error e' >>= f) = .error e' := rfl
      simp [hbind]
  | ok a =>
      refine ⟨fun h => .inr ⟨a, rfl, h⟩, ?_⟩
      rintro (h | ⟨a', h, h'⟩)
      · cases h
      · exact Except.ok.inj h ▸ h'

theorem map_bind {γ : Type} {g : α → β} {h : β → Except ε γ} :
    (x.map g >>= h) = x >>= fun a => h (g a) := by
  cases x <;> rfl

theorem mapError_eq_ok {g : ε → ε'} : x.mapError g = .ok a ↔ x = .ok a := by
  cases x <;> simp [Except.mapError]

theorem mapError_eq_error {g : ε → ε'} {e' : ε'} :
    x.mapError g = .error e' ↔ ∃ e, x = .error e ∧ g e = e' := by
  cases x with
  | error e => simp [Except.mapError]
  | ok a => exact ⟨nofun, fun ⟨_, h, _⟩ => nomatch h⟩

theorem map_eq_ok {g : α → β} : x.map g = .ok b ↔ ∃ a, x = .ok a ∧ g a = b := by
  cases x <;> simp [Except.map]

theorem map_eq_error {g : α → β} : x.map g = .error e ↔ x = .error e := by
  cases x with
  | error e' => simp [Except.map]
  | ok a => exact ⟨nofun, nofun⟩

theorem mapM_cons_ok {as : List α} (h : f a = .ok b) :
    (a :: as).mapM f = (as.mapM f).map (b :: ·) := by
  rw [List.mapM_cons, h]
  rfl

theorem mapM_cons_error {as : List α} (h : f a = .error e) : (a :: as).mapM f = .error e := by
  rw [List.mapM_cons, h]
  rfl

theorem mapM_eq_ok {as : List α} {bs : List β} :
    as.mapM f = .ok bs ↔ List.Forall₂ (fun a b => f a = .ok b) as bs := by
  induction as generalizing bs with
  | nil => exact ⟨fun h => Except.ok.inj h ▸ .nil, fun h => by cases h; rfl⟩
  | cons a as ih =>
      cases hf : f a with
      | error e =>
          rw [mapM_cons_error hf]
          exact ⟨nofun, fun h => by cases h with | cons h _ => cases hf.symm.trans h⟩
      | ok b =>
          rw [mapM_cons_ok hf, map_eq_ok, List.forall₂_cons_left_iff]
          constructor
          · rintro ⟨bs, h, rfl⟩
            exact ⟨b, bs, hf, ih.mp h, rfl⟩
          · rintro ⟨b', bs, h, hbs, rfl⟩
            obtain rfl := Except.ok.inj (hf.symm.trans h)
            exact ⟨bs, ih.mpr hbs, rfl⟩

/-- To do the same with each of a list succeeds if it does with each. -/
theorem exists_mapM_iff {as : List α} :
    (∃ bs, as.mapM f = .ok bs) ↔ ∀ a ∈ as, ∃ b, f a = .ok b := by
  induction as with
  | nil => exact ⟨fun _ => nofun, fun _ => ⟨[], rfl⟩⟩
  | cons a as ih =>
      rw [List.forall_mem_cons, ← ih]
      simp only [mapM_eq_ok, List.forall₂_cons_left_iff]
      constructor
      · rintro ⟨_, b, bs, h, hbs, -⟩
        exact ⟨⟨b, h⟩, bs, hbs⟩
      · rintro ⟨⟨b, h⟩, bs, hbs⟩
        exact ⟨b :: bs, b, bs, h, hbs, rfl⟩

/-- What is done with each of a list is found at the same place. -/
theorem getElem?_of_mapM {as : List α} {bs : List β} {i : Nat} (h : as.mapM f = .ok bs)
    (ha : as[i]? = some a) : ∃ b, bs[i]? = some b ∧ f a = .ok b := by
  have hall := mapM_eq_ok.mp h
  clear h
  induction hall generalizing i with
  | nil => cases ha
  | @cons a' b as bs hb _ ih =>
      cases i with
      | zero => exact ⟨b, rfl, Option.some.inj ha ▸ hb⟩
      | succ i => exact ih ha

end

/-- `e` is the failure of the first of `xs` that fails; `fails` tells how each of them does. -/
def FirstFails {α ε : Type} (fails : α → ε → Prop) (xs : List α) (e : ε) : Prop :=
  ∃ before x after, xs = before ++ x :: after ∧ (∀ y ∈ before, ∀ e, ¬ fails y e) ∧ fails x e

namespace FirstFails

variable {α ε : Type} {fails : α → ε → Prop} {x : α} {xs : List α} {e : ε}

theorem not_nil : ¬ FirstFails fails [] e := by
  rintro ⟨before, x, after, h, -, -⟩
  cases before <;> cases h

theorem cons_iff :
    FirstFails fails (x :: xs) e ↔ fails x e ∨ (∀ e, ¬ fails x e) ∧ FirstFails fails xs e := by
  constructor
  · rintro ⟨before, y, after, h, hbefore, hy⟩
    cases before with
    | nil =>
        obtain ⟨rfl, -⟩ := List.cons.inj h
        exact .inl hy
    | cons z before =>
        obtain ⟨rfl, rfl⟩ := List.cons.inj h
        obtain ⟨hx, hbefore⟩ := List.forall_mem_cons.mp hbefore
        exact .inr ⟨hx, before, y, after, rfl, hbefore, hy⟩
  · rintro (hx | ⟨hx, before, y, after, rfl, hbefore, hy⟩)
    · exact ⟨[], x, xs, rfl, nofun, hx⟩
    · exact ⟨x :: before, y, after, rfl, List.forall_mem_cons.mpr ⟨hx, hbefore⟩, hy⟩

/-- What fails is one of the list. -/
theorem exists_mem (h : FirstFails fails xs e) : ∃ x ∈ xs, fails x e := by
  obtain ⟨before, x, after, rfl, -, hx⟩ := h
  exact ⟨x, List.mem_append_right before List.mem_cons_self, hx⟩

/-- As soon as one of the list fails, there is a first one. -/
theorem exists_of_mem (hx : x ∈ xs) (h : fails x e) : ∃ e, FirstFails fails xs e := by
  induction xs with
  | nil => cases hx
  | cons y xs ih =>
      by_cases hy : ∃ e, fails y e
      · obtain ⟨e', hy⟩ := hy
        exact ⟨e', cons_iff.mpr (.inl hy)⟩
      · rw [not_exists] at hy
        rcases List.mem_cons.mp hx with rfl | hx
        · exact absurd h (hy e)
        · obtain ⟨e', h'⟩ := ih hx
          exact ⟨e', cons_iff.mpr (.inr ⟨hy, h'⟩)⟩

theorem append_iff {ys : List α} :
    FirstFails fails (xs ++ ys) e ↔
      FirstFails fails xs e ∨ (∀ e, ¬ FirstFails fails xs e) ∧ FirstFails fails ys e := by
  induction xs with
  | nil => simp [not_nil]
  | cons x xs ih =>
      simp only [List.cons_append, cons_iff, ih]
      by_cases hx : ∃ e, fails x e
      · obtain ⟨e', hx⟩ := hx
        have hnot : ¬ ∀ e, ¬ fails x e := fun h => h e' hx
        simp [hnot]
      · rw [not_exists] at hx
        simp [hx]

/-- To go through a list is to do a first part of it and then to go on with the others. -/
theorem bind_append_iff {β γ : Type} {ys : List α} {first : Except ε β} {others : β → Except ε γ}
    (hfirst : ∀ e, first = .error e ↔ FirstFails fails xs e)
    (hothers : ∀ b, first = .ok b → (others b = .error e ↔ FirstFails fails ys e)) :
    (first >>= others) = .error e ↔ FirstFails fails (xs ++ ys) e := by
  rw [bind_eq_error, append_iff, ← hfirst e]
  cases first with
  | error e' =>
      have hnot : ¬ ∀ e, ¬ FirstFails fails xs e := fun h => h e' ((hfirst e').mp rfl)
      exact or_congr_right ⟨fun ⟨_, h, _⟩ => (nomatch h), fun h => absurd h.1 hnot⟩
  | ok b =>
      have hnone : ∀ e, ¬ FirstFails fails xs e := fun e h => nomatch (hfirst e).mpr h
      refine or_congr_right ⟨fun ⟨b', h, h'⟩ => ⟨hnone, ?_⟩, fun h => ⟨b, rfl, ?_⟩⟩
      · exact (hothers b' h).mp h'
      · exact (hothers b rfl).mpr h.2

theorem singleton_iff : FirstFails fails [x] e ↔ fails x e := by
  simp [cons_iff, not_nil]

/-- To go through a list is to do the first of it and then to go on with the others. -/
theorem bind_iff {β γ : Type} {first : Except ε β} {others : β → Except ε γ}
    (hfirst : ∀ e, first = .error e ↔ fails x e)
    (hothers : ∀ b, first = .ok b → (others b = .error e ↔ FirstFails fails xs e)) :
    (first >>= others) = .error e ↔ FirstFails fails (x :: xs) e := by
  rw [← List.singleton_append]
  exact bind_append_iff (fun e => (hfirst e).trans singleton_iff.symm) hothers

/-- To do the same with each of a list fails with the first that fails. -/
theorem mapM_iff {β : Type} {f : α → Except ε β} :
    xs.mapM f = .error e ↔ FirstFails (fun x e => f x = .error e) xs e := by
  induction xs with
  | nil => exact ⟨nofun, fun h => absurd h not_nil⟩
  | cons x xs ih =>
      rw [List.mapM_cons]
      refine bind_iff (fun _ => Iff.rfl) fun _ _ => ?_
      rw [bind_eq_error, ← ih]
      exact ⟨fun h => h.elim id fun ⟨_, _, h⟩ => (nomatch h), .inl⟩

end FirstFails

end SecretScan
