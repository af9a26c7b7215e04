import Allowlist.Descriptor.Load
import Mathlib.Data.List.Forall2

namespace Allowlist

namespace Loaded

variable {α β : Type}

def IsInvalid (x : Loaded α) : Prop := ∃ ls, x = .invalid ls

theorem errors_map (f : α → β) (x : Loaded α) : (f <$> x).errors = x.errors := by
  cases x with
  | ok a => rfl
  | invalid ls => rfl

theorem errors_seq (f : Loaded (α → β)) (x : Loaded α) :
    (f <*> x).errors = f.errors ++ x.errors := by
  cases f with
  | ok f => exact errors_map f x
  | invalid ls => rfl

theorem errors_under (step : String) (x : Loaded α) :
    (x.under step).errors = x.errors.map (step :: ·) := by
  cases x with
  | ok a => rfl
  | invalid ls => rfl

theorem not_isInvalid_ok {a : α} : ¬ (ok a).IsInvalid := nofun

theorem isInvalid_map {f : α → β} {x : Loaded α} : (f <$> x).IsInvalid ↔ x.IsInvalid := by
  cases x with
  | ok a => exact iff_of_false nofun nofun
  | invalid ls => exact iff_of_true ⟨ls, rfl⟩ ⟨ls, rfl⟩

theorem isInvalid_seq {f : Loaded (α → β)} {x : Loaded α} :
    (f <*> x).IsInvalid ↔ f.IsInvalid ∨ x.IsInvalid := by
  cases f with
  | ok f => exact isInvalid_map.trans (or_iff_right not_isInvalid_ok).symm
  | invalid ls => exact iff_of_true ⟨_, rfl⟩ (.inl ⟨ls, rfl⟩)

theorem isInvalid_under {step : String} {x : Loaded α} :
    (x.under step).IsInvalid ↔ x.IsInvalid := by
  cases x with
  | ok a => exact iff_of_false nofun nofun
  | invalid ls => exact iff_of_true ⟨_, rfl⟩ ⟨ls, rfl⟩

theorem map_eq_ok_iff {f : α → β} {x : Loaded α} {b : β} :
    f <$> x = .ok b ↔ ∃ a, x = .ok a ∧ f a = b := by
  cases x with
  | ok a =>
    refine ⟨fun h => ⟨a, rfl, ok.inj h⟩, ?_⟩
    rintro ⟨_, ha, rfl⟩
    cases ha
    rfl
  | invalid ls => exact iff_of_false nofun nofun

theorem seq_eq_ok_iff {f : Loaded (α → β)} {x : Loaded α} {b : β} :
    f <*> x = .ok b ↔ ∃ g a, f = .ok g ∧ x = .ok a ∧ g a = b := by
  cases f with
  | ok f =>
    refine map_eq_ok_iff.trans ⟨fun ⟨a, hx, hb⟩ => ⟨f, a, rfl, hx, hb⟩, ?_⟩
    rintro ⟨_, a, hf, hx, hb⟩
    cases hf
    exact ⟨a, hx, hb⟩
  | invalid ls => exact iff_of_false nofun nofun

theorem under_eq_ok_iff {step : String} {x : Loaded α} {a : α} :
    x.under step = .ok a ↔ x = .ok a := by
  cases x with
  | ok a => rfl
  | invalid ls => exact iff_of_false nofun nofun

end Loaded

namespace Load

variable {α : Type} {read : Value → Loaded α}

theorem errors_itemsFrom (i : Nat) (vs : List Value) : (itemsFrom read i vs).errors =
    (vs.zipIdx i).flatMap fun (v, j) => (read v).errors.map (toString j :: ·) := by
  induction vs generalizing i with
  | nil => rfl
  | cons v vs ih =>
    rw [itemsFrom, Loaded.errors_seq, Loaded.errors_map, Loaded.errors_under, ih,
      List.zipIdx_cons, List.flatMap_cons]

theorem isInvalid_itemsFrom {i : Nat} {vs : List Value} :
    (itemsFrom read i vs).IsInvalid ↔ ∃ v ∈ vs, (read v).IsInvalid := by
  induction vs generalizing i with
  | nil => exact iff_of_false nofun nofun
  | cons v vs ih =>
    rw [itemsFrom, Loaded.isInvalid_seq, Loaded.isInvalid_map, Loaded.isInvalid_under, ih,
      List.exists_mem_cons_iff]

theorem itemsFrom_eq_ok_iff {i : Nat} {vs : List Value} {as : List α} :
    itemsFrom read i vs = .ok as ↔ List.Forall₂ (fun v a => read v = .ok a) vs as := by
  induction vs generalizing i as with
  | nil => simp [itemsFrom, eq_comm]
  | cons v vs ih =>
    simp only [itemsFrom, Loaded.seq_eq_ok_iff, Loaded.map_eq_ok_iff, Loaded.under_eq_ok_iff, ih,
      List.forall₂_cons_left_iff]
    constructor
    · rintro ⟨_, as, ⟨a, ha, rfl⟩, has, rfl⟩
      exact ⟨a, as, ha, has, rfl⟩
    · rintro ⟨a, as, ha, has, rfl⟩
      exact ⟨_, as, ⟨a, ha, rfl⟩, has, rfl⟩

end Load

end Allowlist
