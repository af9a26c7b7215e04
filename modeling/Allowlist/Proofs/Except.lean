import Allowlist.Proofs.Lists
import Mathlib.Data.List.Forall2

namespace Allowlist

variable {ε α β : Type}

@[simp] theorem exceptOk_bind (a : α) (f : α → Except ε β) : (Except.ok a >>= f) = f a := rfl

theorem exceptBind_ok {x : Except ε α} {f : α → Except ε β} {b : β} :
    x >>= f = .ok b ↔ ∃ a, x = .ok a ∧ f a = .ok b := by
  cases x with
  | error e => simp [Bind.bind, Except.bind]
  | ok a => simp [Bind.bind, Except.bind]

theorem exceptMap_ok {x : Except ε α} {f : α → β} {b : β} :
    x.map f = .ok b ↔ ∃ a, x = .ok a ∧ f a = b := by
  cases x <;> simp [Except.map]

theorem exceptMap_error {x : Except ε α} {f : α → β} {e : ε} :
    x.map f = .error e ↔ x = .error e := by
  cases x <;> simp [Except.map]

theorem exceptMap_inj {x y : Except ε α} {f : α → β} (hf : f.Injective) :
    x.map f = y.map f ↔ x = y := by
  cases x <;> cases y <;> simp [Except.map, hf.eq_iff]

theorem exceptToOption_some {x : Except ε α} {a : α} : x.toOption = some a ↔ x = .ok a := by
  cases x <;> simp [Except.toOption]

theorem mapM_ok {f : α → Except ε β} {as : List α} {bs : List β} :
    as.mapM f = .ok bs ↔ List.Forall₂ (fun a b => f a = .ok b) as bs := by
  induction as generalizing bs with
  | nil => simp [Pure.pure, Except.pure, eq_comm]
  | cons a as ih =>
    rw [List.mapM_cons, List.forall₂_cons_left_iff, exceptBind_ok]
    simp only [exceptBind_ok, ih, Pure.pure, Except.pure, Except.ok.injEq]
    constructor
    · rintro ⟨b, hb, bs, hbs, rfl⟩
      exact ⟨b, bs, hb, hbs, rfl⟩
    · rintro ⟨b, bs, hb, hbs, rfl⟩
      exact ⟨b, hb, bs, hbs, rfl⟩

theorem mapM_error {f : α → Except ε β} {as : List α} {err : ε} (h : as.mapM f = .error err) :
    ∃ before a after bs, as = before ++ a :: after ∧ before.mapM f = .ok bs ∧
      f a = .error err := by
  induction as with
  | nil => cases h
  | cons a as ih =>
    rw [List.mapM_cons] at h
    cases ha : f a with
    | error e =>
      rw [ha] at h
      cases h
      exact ⟨[], a, as, [], rfl, rfl, ha⟩
    | ok b =>
      cases has : as.mapM f with
      | error e =>
        rw [ha, has] at h
        cases h
        obtain ⟨before, a', after, bs, rfl, hbs, he⟩ := ih has
        refine ⟨a :: before, a', after, b :: bs, rfl, ?_, he⟩
        rw [List.mapM_cons, ha, hbs]
        rfl
      | ok bs =>
        rw [ha, has] at h
        cases h

theorem exists_mapM_iff {f : α → Except ε β} {as : List α} :
    (∃ bs, as.mapM f = .ok bs) ↔ ∀ a ∈ as, ∃ b, f a = .ok b := by
  simp only [mapM_ok]
  constructor
  · rintro ⟨bs, h⟩ a ha
    obtain ⟨b, -, hb⟩ := h.exists_right ha
    exact ⟨b, hb⟩
  · exact List.Forall₂.of_exists

section Replace

variable {f : α → Except ε β} {before after : List α} {x y : α}

theorem mapM_replace (h : f x = f y) :
    (before ++ x :: after).mapM f = (before ++ y :: after).mapM f := by
  rw [List.mapM_append, List.mapM_append, List.mapM_cons, List.mapM_cons, h]

theorem mapM_replace_ok {bs : List β} (hx : (before ++ x :: after).mapM f = .ok bs)
    (hy : (before ++ y :: after).mapM f = .ok bs) : ∃ b, f x = .ok b ∧ f y = .ok b := by
  rw [mapM_ok] at hx hy
  induction before generalizing bs with
  | nil =>
    obtain ⟨b, bs, hb, -, rfl⟩ := List.forall₂_cons_left_iff.1 hx
    obtain ⟨c, cs, hc, -, heq⟩ := List.forall₂_cons_left_iff.1 hy
    cases heq
    exact ⟨b, hb, hc⟩
  | cons a before ih =>
    obtain ⟨b, bs, -, hbs, rfl⟩ := List.forall₂_cons_left_iff.1 hx
    obtain ⟨c, cs, -, hcs, heq⟩ := List.forall₂_cons_left_iff.1 hy
    cases heq
    exact ih hbs hcs

theorem mapM_replace_error_iff (h : ∀ e, f x = .error e ↔ f y = .error e) {e : ε} :
    (before ++ x :: after).mapM f = .error e ↔ (before ++ y :: after).mapM f = .error e := by
  rw [List.mapM_append, List.mapM_append, List.mapM_cons, List.mapM_cons]
  cases before.mapM f with
  | error err => rfl
  | ok bs =>
    cases hx : f x with
    | error err => rw [(h err).1 hx]
    | ok b =>
      cases hy : f y with
      | error err => cases hx.symm.trans ((h err).2 hy)
      | ok c =>
        cases after.mapM f with
        | error err => exact Iff.rfl
        | ok cs => exact iff_of_false nofun nofun

end Replace

end Allowlist
