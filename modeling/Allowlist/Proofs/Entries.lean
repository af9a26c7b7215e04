import Allowlist.Value

/-!
Laws of entries as a dictionary holds them. Writing entries one after the other keeps the first of
the keys that name one entry, and the last of the values.
-/

namespace Allowlist

theorem Key.isText_iff {k : Key} : k.isText = true ↔ ∃ s, k = .text s := by
  cases k with
  | null => simp [isText]
  | leaf a => cases a <;> simp [isText]
  | tuple ks => simp [isText]

theorem Scalar.sameKey_text_iff {a : Scalar} {s : String} :
    a.sameKey (.text s) = true ↔ a = .text s := by
  have hs : (Scalar.text s).quantity? = none := rfl
  constructor
  · intro h
    cases hq : a.quantity? with
    | none =>
      simp only [sameKey, hq, hs, Bool.and_eq_true, decide_eq_true_eq] at h
      exact h.2
    | some q => simp [sameKey, hq, hs] at h
  · intro h
    simp [h]

theorem Scalar.text_sameKey_iff {a : Scalar} {s : String} :
    (Scalar.text s).sameKey a = true ↔ a = .text s := by
  have hs : (Scalar.text s).quantity? = none := rfl
  constructor
  · intro h
    cases hq : a.quantity? with
    | none =>
      simp only [sameKey, hq, hs, Bool.and_eq_true, decide_eq_true_eq] at h
      exact h.2.symm
    | some q => simp [sameKey, hq, hs] at h
  · intro h
    simp [h]

theorem Key.same_text_iff {k : Key} {s : String} : k.same (.text s) = true ↔ k = .text s := by
  cases k with
  | null => simp [Key.same]
  | leaf a => simp [Key.same, Scalar.sameKey_text_iff]
  | tuple ks => simp [Key.same]

theorem Key.text_same_iff {k : Key} {s : String} :
    (Key.text s).same k = true ↔ k = .text s := by
  cases k with
  | null => simp [Key.same]
  | leaf a => simp [Key.same, Scalar.text_sameKey_iff]
  | tuple ks => simp [Key.same]

namespace Entries

variable {α β : Type}

/-- No two keys name the same entry. -/
def Distinct (es : List (Key × α)) : Prop := es.Pairwise fun a b => a.1.same b.1 = false

instance (es : List (Key × α)) : Decidable (Distinct es) :=
  inferInstanceAs (Decidable (es.Pairwise fun a b => a.1.same b.1 = false))

theorem distinct_nil : Distinct ([] : List (Key × α)) := .nil

theorem distinct_iff_keys {es : List (Key × α)} :
    Distinct es ↔ (es.map (·.1)).Pairwise fun a b => a.same b = false :=
  (List.pairwise_map (R := fun a b : Key => a.same b = false)).symm

theorem keys_put (k : Key) (v : α) (es : List (Key × α)) :
    (put k v es).map (·.1) =
      if es.any (·.1.same k) then es.map (·.1) else es.map (·.1) ++ [k] := by
  induction es with
  | nil => rfl
  | cons e es ih =>
    simp only [put, List.any_cons]
    by_cases h : e.1.same k = true
    · simp [h]
    · simp only [h, Bool.false_eq_true, if_false, List.map_cons, ih, Bool.false_or]
      split <;> rfl

theorem put_of_fresh {k : Key} {es : List (Key × α)} (v : α)
    (h : ∀ e ∈ es, e.1.same k = false) : put k v es = es ++ [(k, v)] := by
  induction es with
  | nil => rfl
  | cons e es ih =>
    rw [List.forall_mem_cons] at h
    simp [put, h.1, ih h.2]

theorem distinct_put {es : List (Key × α)} (k : Key) (v : α) (h : Distinct es) :
    Distinct (put k v es) := by
  rw [distinct_iff_keys] at h ⊢
  rw [keys_put]
  split
  · exact h
  · rename_i hk
    simp only [List.any_eq_true, not_exists, not_and, Bool.not_eq_true] at hk
    simpa [List.pairwise_append, h] using fun k' v' he => hk (k', v') he

theorem mem_put {k : Key} {v : α} {es : List (Key × α)} {e : Key × α} (h : e ∈ put k v es) :
    e ∈ es ∨ e.2 = v ∧ (e.1 = k ∨ e.1.same k = true) := by
  induction es with
  | nil =>
    simp only [put, List.mem_singleton] at h
    subst h
    exact .inr ⟨rfl, .inl rfl⟩
  | cons e' es ih =>
    simp only [put] at h
    split at h
    · rename_i hk
      cases h with
      | head => exact .inr ⟨rfl, .inr hk⟩
      | tail _ h => exact .inl (.tail _ h)
    · cases h with
      | head => exact .inl (.head _)
      | tail _ h => exact (ih h).imp_left (.tail _)

def putAll (es m : List (Key × α)) : List (Key × α) := es.foldl (fun m e => put e.1 e.2 m) m

theorem ofList_eq_putAll (es : List (Key × α)) : ofList es = putAll es [] := rfl

@[simp] theorem putAll_nil (m : List (Key × α)) : putAll [] m = m := rfl

@[simp] theorem putAll_cons (e : Key × α) (es m : List (Key × α)) :
    putAll (e :: es) m = putAll es (put e.1 e.2 m) := rfl

theorem distinct_putAll (es : List (Key × α)) {m : List (Key × α)} (h : Distinct m) :
    Distinct (putAll es m) := by
  induction es generalizing m with
  | nil => exact h
  | cons e es ih => exact ih (distinct_put e.1 e.2 h)

theorem distinct_ofList (es : List (Key × α)) : Distinct (ofList es) :=
  distinct_putAll es distinct_nil

theorem putAll_of_distinct {es m : List (Key × α)} (h : Distinct (m ++ es)) :
    putAll es m = m ++ es := by
  induction es generalizing m with
  | nil => simp
  | cons e es ih =>
    have fresh : ∀ e' ∈ m, e'.1.same e.1 = false := fun e' he =>
      (List.pairwise_append.1 h).2.2 e' he e (.head _)
    rw [putAll_cons, put_of_fresh e.2 fresh, ih] <;> simp_all

theorem ofList_of_distinct {es : List (Key × α)} (h : Distinct es) : ofList es = es :=
  putAll_of_distinct h

@[simp] theorem ofList_ofList (es : List (Key × α)) : ofList (ofList es) = ofList es :=
  ofList_of_distinct (distinct_ofList es)

theorem mem_putAll {es m : List (Key × α)} {e : Key × α} (h : e ∈ putAll es m) :
    e ∈ m ∨ ∃ k, (k, e.2) ∈ es ∧ (e.1 = k ∨ e.1.same k = true) := by
  induction es generalizing m with
  | nil => exact .inl h
  | cons e' es ih =>
    cases ih h with
    | inl h =>
      cases mem_put h with
      | inl h => exact .inl h
      | inr h => exact .inr ⟨e'.1, by simp [h.1], h.2⟩
    | inr h =>
      obtain ⟨k, hk, hs⟩ := h
      exact .inr ⟨k, .tail _ hk, hs⟩

theorem mem_ofList {es : List (Key × α)} {e : Key × α} (h : e ∈ ofList es) :
    ∃ k, (k, e.2) ∈ es ∧ (e.1 = k ∨ e.1.same k = true) := by
  simpa using mem_putAll h

theorem mem_ofList_cases {es : List (Key × α)} {e : Key × α} (h : e ∈ ofList es) :
    e ∈ es ∨ e.1.isText = false ∧ ∃ k, k.isText = false ∧ (k, e.2) ∈ es := by
  obtain ⟨j, v⟩ := e
  obtain ⟨k, hk, hs⟩ := mem_ofList h
  by_cases hj : j = k
  · exact .inl (hj ▸ hk)
  have hs : j.same k = true := hs.resolve_left hj
  have keys : j.isText = false ∧ k.isText = false := by
    rw [← Bool.not_eq_true, ← Bool.not_eq_true, Key.isText_iff, Key.isText_iff]
    constructor
    · rintro ⟨s, rfl⟩
      exact hj (Key.text_same_iff.1 hs).symm
    · rintro ⟨s, rfl⟩
      exact hj (Key.same_text_iff.1 hs)
  exact .inr ⟨keys.1, k, keys.2, hk⟩

theorem keys_putAll_subset {es m : List (Key × α)} {k : Key}
    (h : k ∈ (putAll es m).map (·.1)) : k ∈ m.map (·.1) ∨ k ∈ es.map (·.1) := by
  induction es generalizing m with
  | nil => exact .inl h
  | cons e es ih =>
    cases ih h with
    | inl h =>
      rw [keys_put] at h
      split at h
      · exact .inl h
      · cases List.mem_append.1 h with
        | inl h => exact .inl h
        | inr h => exact .inr (by simp_all)
    | inr h => exact .inr (.tail _ h)

theorem key_mem_of_mem_ofList {es : List (Key × α)} {e : Key × α} (h : e ∈ ofList es) :
    e.1 ∈ es.map (·.1) := by
  simpa using keys_putAll_subset (m := []) (List.mem_map_of_mem h)

theorem keys_subset_putAll (es : List (Key × α)) {m : List (Key × α)} {k : Key}
    (h : k ∈ m.map (·.1)) : k ∈ (putAll es m).map (·.1) := by
  induction es generalizing m with
  | nil => exact h
  | cons e es ih =>
    apply ih
    rw [keys_put]
    split
    · exact h
    · exact List.mem_append_left _ h

theorem key_putAll {es m : List (Key × α)} {e : Key × α} (h : e ∈ es) :
    ∃ k ∈ (putAll es m).map (·.1), k = e.1 ∨ k.same e.1 = true := by
  induction es generalizing m with
  | nil => cases h
  | cons e' es ih =>
    cases h with
    | head =>
      suffices ∃ k ∈ (put e.1 e.2 m).map (·.1), k = e.1 ∨ k.same e.1 = true by
        obtain ⟨k, hk, hs⟩ := this
        exact ⟨k, keys_subset_putAll es hk, hs⟩
      rw [keys_put]
      split
      · rename_i hm
        obtain ⟨e', he, hs⟩ := List.any_eq_true.1 hm
        exact ⟨e'.1, List.mem_map_of_mem he, .inr hs⟩
      · exact ⟨e.1, by simp, .inl rfl⟩
    | tail _ h => exact ih h

theorem key_ofList {es : List (Key × α)} {e : Key × α} (h : e ∈ es) :
    ∃ k ∈ (ofList es).map (·.1), k = e.1 ∨ k.same e.1 = true := key_putAll h

theorem length_put (k : Key) (v : α) (es : List (Key × α)) :
    put k v es = es ++ [(k, v)] ∨ (put k v es).length = es.length := by
  by_cases h : ∃ e ∈ es, e.1.same k = true
  · have hk := congrArg List.length (keys_put k v es)
    rw [if_pos (by simpa using h)] at hk
    exact .inr (by simpa using hk)
  · exact .inl (put_of_fresh v (by simpa using h))

theorem length_putAll_le (es m : List (Key × α)) :
    (putAll es m).length ≤ m.length + es.length := by
  induction es generalizing m with
  | nil => simp
  | cons e es ih =>
    have h := ih (put e.1 e.2 m)
    rw [putAll_cons, List.length_cons]
    cases length_put e.1 e.2 m with
    | inl hp =>
      rw [hp] at h ⊢
      simp only [List.length_append, List.length_singleton] at h
      omega
    | inr hp => omega

theorem putAll_of_length {es m : List (Key × α)}
    (h : (putAll es m).length = m.length + es.length) : putAll es m = m ++ es := by
  induction es generalizing m with
  | nil => simp
  | cons e es ih =>
    rw [putAll_cons, List.length_cons] at h
    rw [putAll_cons]
    cases length_put e.1 e.2 m with
    | inl hp =>
      rw [hp] at h ⊢
      rw [ih (by simp only [List.length_append, List.length_singleton] at h ⊢; omega)]
      simp
    | inr hp =>
      have := length_putAll_le es (put e.1 e.2 m)
      omega

theorem ofList_of_length {es : List (Key × α)} (h : (ofList es).length = es.length) :
    ofList es = es := by
  rw [ofList_eq_putAll] at h ⊢
  simpa using putAll_of_length (m := []) (by simpa using h)

theorem put_map_value (f : α → β) (k : Key) (v : α) (es : List (Key × α)) :
    put k (f v) (es.map fun e => (e.1, f e.2)) = (put k v es).map fun e => (e.1, f e.2) := by
  induction es with
  | nil => rfl
  | cons e es ih =>
    simp only [List.map_cons, put, ih]
    split <;> rfl

theorem ofList_map_value (f : α → β) (es : List (Key × α)) :
    ofList (es.map fun e => (e.1, f e.2)) = (ofList es).map fun e => (e.1, f e.2) := by
  suffices ∀ m, putAll (es.map fun e => (e.1, f e.2)) (m.map fun e => (e.1, f e.2)) =
      (putAll es m).map fun e => (e.1, f e.2) from this []
  intro m
  induction es generalizing m with
  | nil => rfl
  | cons e es ih =>
    simp only [List.map_cons, putAll_cons, put_map_value, ih]

theorem get?_map_value (f : α → β) (k : Key) (es : List (Key × α)) :
    get? k (es.map fun e => (e.1, f e.2)) = (get? k es).map f := by
  induction es with
  | nil => rfl
  | cons e es ih =>
    simp only [List.map_cons, get?, ih]
    split <;> rfl

theorem get?_put (s : String) (k : Key) (v : α) (es : List (Key × α)) :
    get? (.text s) (put k v es) = if k.same (.text s) then some v else get? (.text s) es := by
  induction es with
  | nil => simp [put, get?]
  | cons e es ih =>
    by_cases hk : e.1.same k = true
    · simp only [put, hk, if_true, get?]
      by_cases hs : k.same (.text s) = true
      · have hk' := Key.same_text_iff.1 hs
        subst hk'
        simp [hk]
      · by_cases he : e.1.same (.text s) = true
        · rw [Key.same_text_iff.1 he] at hk
          rw [Key.text_same_iff.1 hk] at hs
          simp at hs
        · simp [hs, he]
    · simp only [put, hk, Bool.false_eq_true, if_false, get?, ih]
      by_cases hs : k.same (.text s) = true
      · rw [Key.same_text_iff.1 hs] at hk
        simp [hs, hk]
      · simp [hs]

theorem get?_putAll {s : String} {v : α} {es m : List (Key × α)}
    (h : ∀ e ∈ es, e.1 = .text s → e.2 = v)
    (hm : (Key.text s, v) ∈ es ∨ get? (.text s) m = some v) :
    get? (.text s) (putAll es m) = some v := by
  induction es generalizing m with
  | nil => simpa using hm
  | cons e es ih =>
    rw [List.forall_mem_cons] at h
    apply ih h.2
    rw [get?_put]
    by_cases he : e.1.same (.text s) = true
    · simp [he, h.1 (Key.same_text_iff.1 he)]
    · cases hm with
      | inl hm =>
        cases hm with
        | head => simp at he
        | tail _ hm => exact .inl hm
      | inr hm => exact .inr (by simp [he, hm])

theorem get?_ofList {s : String} {v : α} {es : List (Key × α)} (hv : (Key.text s, v) ∈ es)
    (h : ∀ e ∈ es, e.1 = .text s → e.2 = v) : get? (.text s) (ofList es) = some v :=
  get?_putAll h (.inl hv)

theorem mem_of_get? {s : String} {v : α} {es : List (Key × α)} (h : get? (.text s) es = some v) :
    (Key.text s, v) ∈ es := by
  induction es with
  | nil => cases h
  | cons e es ih =>
    simp only [get?] at h
    split at h
    · rename_i hk
      cases h
      rw [← Key.same_text_iff.1 hk]
      exact .head _
    · exact .tail _ (ih h)

theorem get?_insert {s : String} {k : Key} (h : k ≠ .text s) (v : α)
    (before after : List (Key × α)) :
    get? (.text s) (before ++ (k, v) :: after) = get? (.text s) (before ++ after) := by
  induction before with
  | nil => exact if_neg (mt Key.same_text_iff.1 h)
  | cons e before ih => simp only [List.cons_append, get?, ih]

theorem get?_replace {f : α → β} {s : String} {k : Key} {v w : α} (h : k = .text s → f v = f w)
    (before after : List (Key × α)) :
    (get? (.text s) (before ++ (k, v) :: after)).map f =
      (get? (.text s) (before ++ (k, w) :: after)).map f := by
  induction before with
  | nil =>
    simp only [List.nil_append, get?]
    split
    · next hk => exact congrArg some (h (Key.same_text_iff.1 hk))
    · rfl
  | cons e before ih =>
    simp only [List.cons_append, get?]
    split
    · rfl
    · exact ih

end Entries

end Allowlist
