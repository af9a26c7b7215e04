import Allowlist.Building
import Allowlist.Proofs.Lists

namespace Allowlist.Building

variable {α β γ : Type}

@[simp] theorem pure_notices (a : α) : (Pure.pure a : Building α).notices = [] := rfl

@[simp] theorem pure_result (a : α) : (Pure.pure a : Building α).result = .ok a := rfl

theorem result_bind_ok {b : Building α} {f : α → Building β} {c : β} :
    (b >>= f).result = .ok c ↔ ∃ a, b.result = .ok a ∧ (f a).result = .ok c := by
  rcases b with ⟨ns, m | a⟩ <;> simp

theorem notices_bind {b : Building α} {f : α → Building β} {a : α} (h : b.result = .ok a) :
    (b >>= f).notices = b.notices ++ (f a).notices := by
  rcases b with ⟨ns, m | a'⟩
  · cases h
  · cases h
    rfl

theorem mem_notices_bind {b : Building α} {f : α → Building β} {n : Notice}
    (h : n ∈ (b >>= f).notices) : n ∈ b.notices ∨ ∃ a, b.result = .ok a ∧ n ∈ (f a).notices := by
  rcases b with ⟨ns, m | a⟩
  · exact .inl h
  · exact (List.mem_append.1 h).imp id fun h => ⟨a, rfl, h⟩

section

variable {f : α → Building β} {as : List α} {bs : List β}

theorem mapM_result_ok :
    (as.mapM f).result = .ok bs ↔ List.Forall₂ (fun a b => (f a).result = .ok b) as bs := by
  induction as generalizing bs with
  | nil => rw [List.mapM_nil, List.forall₂_nil_left_iff, pure_result, Except.ok.injEq, eq_comm]
  | cons a as ih =>
    simp only [List.mapM_cons, result_bind_ok, ih, pure_result, Except.ok.injEq,
      List.forall₂_cons_left_iff]
    constructor
    · rintro ⟨b, hb, bs, hbs, rfl⟩
      exact ⟨b, bs, hb, hbs, rfl⟩
    · rintro ⟨b, bs, hb, hbs, rfl⟩
      exact ⟨b, hb, bs, hbs, rfl⟩

theorem exists_mapM_iff :
    (∃ bs, (as.mapM f).result = .ok bs) ↔ ∀ a ∈ as, ∃ b, (f a).result = .ok b := by
  simp only [mapM_result_ok]
  constructor
  · rintro ⟨bs, h⟩ a ha
    obtain ⟨b, -, hb⟩ := h.exists_right ha
    exact ⟨b, hb⟩
  · exact List.Forall₂.of_exists

theorem mapM_notices (h : (as.mapM f).result = .ok bs) :
    (as.mapM f).notices = as.flatMap fun a => (f a).notices := by
  induction as generalizing bs with
  | nil => rfl
  | cons a as ih =>
    rw [List.mapM_cons, result_bind_ok] at h
    obtain ⟨b, hb, h⟩ := h
    obtain ⟨bs, hbs, -⟩ := result_bind_ok.1 h
    rw [List.mapM_cons, notices_bind hb, notices_bind hbs, ih hbs, List.flatMap_cons]
    simp

theorem mem_mapM_notices {n : Notice} (h : n ∈ (as.mapM f).notices) :
    ∃ a ∈ as, n ∈ (f a).notices := by
  induction as with
  | nil => cases h
  | cons a as ih =>
    rw [List.mapM_cons] at h
    obtain h | ⟨b, -, h⟩ := mem_notices_bind h
    · exact ⟨a, .head _, h⟩
    · obtain h | ⟨bs, -, h⟩ := mem_notices_bind h
      · obtain ⟨a, ha, h⟩ := ih h
        exact ⟨a, .tail _ ha, h⟩
      · cases h

end

end Allowlist.Building
