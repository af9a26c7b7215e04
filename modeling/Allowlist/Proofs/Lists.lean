import Mathlib.Data.List.Forall2

namespace List.Forall₂

variable {α β : Type} {R : α → β → Prop} {as : List α} {bs : List β}

theorem exists_left (h : Forall₂ R as bs) {b : β} (hb : b ∈ bs) : ∃ a ∈ as, R a b := by
  induction h with
  | nil => cases hb
  | cons hr h ih =>
    cases hb with
    | head => exact ⟨_, .head _, hr⟩
    | tail _ hb =>
      obtain ⟨a, ha, hr⟩ := ih hb
      exact ⟨a, .tail _ ha, hr⟩

theorem exists_right (h : Forall₂ R as bs) {a : α} (ha : a ∈ as) : ∃ b ∈ bs, R a b :=
  h.flip.exists_left ha

theorem exists_getElem? (h : Forall₂ R as bs) {i : Nat} {a : α} (ha : as[i]? = some a) :
    ∃ b, bs[i]? = some b ∧ R a b := by
  induction h generalizing i with
  | nil => simp at ha
  | cons hr h ih =>
    cases i with
    | zero =>
      cases ha
      exact ⟨_, rfl, hr⟩
    | succ i => exact ih ha

theorem of_exists (h : ∀ a ∈ as, ∃ b, R a b) : ∃ bs, Forall₂ R as bs := by
  induction as with
  | nil => exact ⟨[], .nil⟩
  | cons a as ih =>
    rw [List.forall_mem_cons] at h
    obtain ⟨b, hb⟩ := h.1
    obtain ⟨bs, hbs⟩ := ih h.2
    exact ⟨b :: bs, .cons hb hbs⟩

theorem of_keys {κ : Type} {P : κ × α → κ × β → Prop} {es : List (κ × α)} {fs : List (κ × β)}
    (hk : es.map (·.1) = fs.map (·.1))
    (h : ∀ {k x y}, ((k, x), (k, y)) ∈ es.zip fs → P (k, x) (k, y)) : Forall₂ P es fs := by
  induction es generalizing fs with
  | nil =>
    cases fs with
    | nil => exact .nil
    | cons f fs => cases hk
  | cons e es ih =>
    cases fs with
    | nil => cases hk
    | cons f fs =>
      obtain ⟨k, x⟩ := e
      obtain ⟨j, y⟩ := f
      rw [List.map_cons, List.map_cons, List.cons.injEq] at hk
      obtain ⟨rfl, hk⟩ := hk
      exact .cons (h (.head _)) (ih hk fun he => h (.tail _ he))

theorem exists_common {γ : Type} {S : α → γ → Prop} {T : β → γ → Prop}
    (h : Forall₂ (fun a b => ∃ c, S a c ∧ T b c) as bs) :
    ∃ cs, Forall₂ S as cs ∧ Forall₂ T bs cs := by
  induction h with
  | nil => exact ⟨[], .nil, .nil⟩
  | cons hc _ ih =>
    obtain ⟨c, hs, ht⟩ := hc
    obtain ⟨cs, hss, hts⟩ := ih
    exact ⟨c :: cs, .cons hs hss, .cons ht hts⟩

theorem congr_left {γ : Type} {S : α → γ → Prop} {T : β → γ → Prop}
    (h : Forall₂ (fun a b => ∀ c, S a c ↔ T b c) as bs) (cs : List γ) :
    Forall₂ S as cs ↔ Forall₂ T bs cs := by
  induction h generalizing cs with
  | nil => rw [forall₂_nil_left_iff, forall₂_nil_left_iff]
  | cons hc _ ih => simp only [forall₂_cons_left_iff, hc, ih]

theorem ne_nil_iff (h : Forall₂ R as bs) : as ≠ [] ↔ bs ≠ [] := by
  cases h <;> simp

theorem forall_iff {P : α → Prop} {Q : β → Prop} (h : Forall₂ (fun a b => P a ↔ Q b) as bs) :
    (∀ a ∈ as, P a) ↔ ∀ b ∈ bs, Q b := by
  induction h with
  | nil => simp
  | cons hab _ ih => rw [forall_mem_cons, forall_mem_cons, hab, ih]

theorem pairwise {S : α → α → Prop} {T : β → β → Prop} (h : Forall₂ R as bs) (hs : as.Pairwise S)
    (hst : ∀ a a' b b', S a a' → R a b → R a' b' → T b b') : bs.Pairwise T := by
  induction h with
  | nil => exact .nil
  | cons hr h ih =>
    obtain ⟨ha, hs⟩ := List.pairwise_cons.1 hs
    refine .cons (fun b' hb' => ?_) (ih hs)
    obtain ⟨a', ha', hr'⟩ := h.exists_left hb'
    exact hst _ _ _ _ (ha a' ha') hr hr'

theorem map_eq {γ : Type} {f : α → γ} {g : β → γ} (h : Forall₂ R as bs)
    (hfg : ∀ a b, R a b → f a = g b) : as.map f = bs.map g := by
  induction h with
  | nil => rfl
  | cons hr _ ih => rw [map_cons, map_cons, hfg _ _ hr, ih]

theorem map_congr {γ δ : Type} {S : α → γ → Prop} {cs : List γ} {f : β → δ} {g : γ → δ}
    (h : Forall₂ R as bs) (h' : Forall₂ S as cs) (hrs : ∀ a b c, R a b → S a c → f b = g c) :
    bs.map f = cs.map g := by
  induction h generalizing cs with
  | nil =>
    cases h'
    rfl
  | cons hr _ ih =>
    cases h' with
    | cons hs h' => rw [List.map_cons, List.map_cons, hrs _ _ _ hr hs, ih h']

end List.Forall₂
