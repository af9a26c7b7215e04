import Allowlist.Proofs.Entries

/-!
What becomes of entries that are written one after the other: each key stays where it was written
first, with the value that was written under it last.
-/

namespace Allowlist

theorem Scalar.sameKey_comm (a b : Scalar) : a.sameKey b = b.sameKey a := by
  unfold sameKey
  cases a.quantity? with
  | none =>
    cases b.quantity? with
    | none => grind
    | some q => rfl
  | some p =>
    cases b.quantity? with
    | none => rfl
    | some q => simp [eq_comm]

theorem Scalar.sameKey_trans {a b c : Scalar} (hab : a.sameKey b = true)
    (hbc : b.sameKey c = true) : a.sameKey c = true := by
  unfold sameKey at *
  cases ha : a.quantity? with
  | none =>
    cases hb : b.quantity? with
    | none => grind
    | some q => simp [ha, hb] at hab
  | some p =>
    cases hb : b.quantity? with
    | none => simp [ha, hb] at hab
    | some q =>
      rw [ha, hb] at hab
      rw [hb] at hbc
      grind

namespace Key

theorem same_comm (k j : Key) : k.same j = j.same k := by
  refine @Key.rec (fun k => ∀ j : Key, k.same j = j.same k)
    (fun ks => ∀ js, sameAll ks js = sameAll js ks) ?_ ?_ ?_ ?_ ?_ k j
  · intro j
    cases j <;> simp [same]
  · intro a j
    cases j <;> simp [same, a.sameKey_comm]
  · intro ks ih j
    cases j <;> simp [same, ih]
  · intro js
    cases js <;> simp [sameAll]
  · intro k ks ihk ih js
    cases js with
    | nil => simp [sameAll]
    | cons j js => rw [sameAll, sameAll, ihk j, ih js]

theorem same_trans {k j i : Key} (hkj : k.same j = true) (hji : j.same i = true) :
    k.same i = true := by
  refine @Key.rec (fun k => ∀ {j i : Key}, k.same j = true → j.same i = true → k.same i = true)
    (fun ks => ∀ {js is}, sameAll ks js = true → sameAll js is = true → sameAll ks is = true)
    ?_ ?_ ?_ ?_ ?_ k j i hkj hji
  · intro j i hkj hji
    cases j with
    | null => exact hji
    | _ => simp [same] at hkj
  · intro a j i hkj hji
    cases j with
    | leaf b =>
      cases i with
      | leaf c =>
        rw [same] at *
        exact Scalar.sameKey_trans hkj hji
      | _ => simp [same] at hji
    | _ => simp [same] at hkj
  · intro ks ih j i hkj hji
    cases j with
    | tuple js =>
      cases i with
      | tuple is =>
        rw [same] at *
        exact ih hkj hji
      | _ => simp [same] at hji
    | _ => simp [same] at hkj
  · intro js is hkj hji
    cases js <;> simp_all [sameAll]
  · intro k ks ihk ih js is hkj hji
    cases js with
    | nil => simp [sameAll] at hkj
    | cons j js =>
      cases is with
      | nil => simp [sameAll] at hji
      | cons i is =>
        simp only [sameAll, Bool.and_eq_true] at *
        exact ⟨ihk hkj.1 hji.1, ih hkj.2 hji.2⟩

end Key

namespace Entries

variable {α : Type} {k : Key} {v : α} {es : List (Key × α)}

def latest (k : Key) : α → List (Key × α) → α
  | v, [] => v
  | v, e :: es => latest k (if k.same e.1 then e.2 else v) es

theorem putAll_cons_head (k : Key) (v : α) (es m : List (Key × α)) :
    putAll es ((k, v) :: m) =
      (k, latest k v es) :: putAll (es.filter fun e => !k.same e.1) m := by
  induction es generalizing v m with
  | nil => rfl
  | cons e es ih =>
    by_cases h : k.same e.1 = true
    · simp [put, latest, h, ih]
    · simp [put, latest, h, ih]

theorem ofList_cons (k : Key) (v : α) (es : List (Key × α)) :
    ofList ((k, v) :: es) = (k, latest k v es) :: ofList (es.filter fun e => !k.same e.1) :=
  putAll_cons_head k v es []

@[elab_as_elim]
theorem merging_induction {P : List (Key × α) → Prop} (nil : P [])
    (cons : ∀ k v es, P (es.filter fun e => !k.same e.1) → P ((k, v) :: es))
    (es : List (Key × α)) : P es :=
  match es with
  | [] => nil
  | (k, v) :: es => cons k v es (merging_induction nil cons _)
termination_by es.length
decreasing_by exact Nat.lt_succ_of_le (List.length_filter_le _ _)

theorem keys_ofList (es : List (Key × α)) :
    (ofList es).map (·.1) = (es.map (·.1)).eraseDupsBy fun j k => k.same j := by
  induction es using merging_induction with
  | nil => rfl
  | cons k v es ih =>
    rw [ofList_cons, List.map_cons, List.map_cons, List.eraseDupsBy_cons, ih, List.filter_map]
    simp [Function.comp_def]

/-- The value of an entry is the one that was written last under a key that names it. -/
def IsLast (es : List (Key × α)) (e : Key × α) : Prop :=
  ∃ before k after, es = before ++ (k, e.2) :: after ∧ (e.1 = k ∨ e.1.same k = true) ∧
    ∀ e' ∈ after, e.1.same e'.1 = false

theorem IsLast.cons {e : Key × α} (h : IsLast es e) (e' : Key × α) : IsLast (e' :: es) e := by
  obtain ⟨before, k, after, rfl, hk, ha⟩ := h
  exact ⟨e' :: before, k, after, rfl, hk, ha⟩

theorem latest_of_fresh (v : α) (h : ∀ e ∈ es, k.same e.1 = false) : latest k v es = v := by
  induction es with
  | nil => rfl
  | cons e es ih =>
    rw [List.forall_mem_cons] at h
    rw [latest, h.1]
    exact ih h.2

theorem latest_cases (k : Key) (v : α) (es : List (Key × α)) :
    (∀ e ∈ es, k.same e.1 = false) ∧ latest k v es = v ∨ IsLast es (k, latest k v es) := by
  induction es generalizing v with
  | nil => exact .inl ⟨by simp, rfl⟩
  | cons e es ih =>
    by_cases h : k.same e.1 = true
    · rw [latest, if_pos h]
      cases ih e.2 with
      | inl ih => exact .inr ⟨[], e.1, es, by rw [ih.2]; rfl, .inr h, ih.1⟩
      | inr ih => exact .inr (ih.cons e)
    · rw [latest, if_neg h]
      rw [Bool.not_eq_true] at h
      exact (ih v).imp (fun ih => ⟨List.forall_mem_cons.2 ⟨h, ih.1⟩, ih.2⟩) (·.cons e)

theorem isLast_latest (k : Key) (v : α) (es : List (Key × α)) :
    IsLast ((k, v) :: es) (k, latest k v es) := by
  cases latest_cases k v es with
  | inl h => exact ⟨[], k, es, by rw [h.2]; rfl, .inl rfl, h.1⟩
  | inr h => exact h.cons _

theorem IsLast.of_filter {e : Key × α} (he : k.same e.1 = false)
    (h : IsLast (es.filter fun e => !k.same e.1) e) : IsLast es e := by
  obtain ⟨before, j, after, hs, hj, ha⟩ := h
  obtain ⟨before', after₀, rfl, rfl, htail⟩ := List.filter_eq_append_iff.1 hs
  obtain ⟨skipped, after', rfl, hskipped, -, rfl⟩ := List.filter_eq_cons_iff.1 htail
  refine ⟨before' ++ skipped, j, after', by simp, hj, ?_⟩
  intro e' he'
  -- What the filter dropped is named by `k`, and so it is not named by `e`.
  by_cases hk : k.same e'.1 = true
  · rw [← Bool.not_eq_true]
    intro h
    rw [Key.same_comm] at h
    rw [Key.same_trans hk h] at he
    cases he
  · exact ha e' (List.mem_filter.2 ⟨he', by simpa using hk⟩)

theorem isLast_ofList {e : Key × α} (h : e ∈ ofList es) : IsLast es e := by
  induction es using merging_induction with
  | nil => cases h
  | cons k v es ih =>
    rw [ofList_cons] at h
    cases h with
    | head => exact isLast_latest k v es
    | tail _ h =>
      obtain ⟨e', he', hk⟩ := List.mem_map.1 (key_mem_of_mem_ofList h)
      have fresh := (List.mem_filter.1 he').2
      rw [hk, Bool.not_eq_true'] at fresh
      exact ((ih h).of_filter fresh).cons _

theorem mem_put_self {m : List (Key × α)} (h : ∀ e ∈ m, e.1 = k ∨ e.1.same k = false) :
    (k, v) ∈ put k v m := by
  induction m with
  | nil => exact .head _
  | cons e m ih =>
    obtain ⟨he, hm⟩ := List.forall_mem_cons.1 h
    rw [put]
    split
    · rename_i hk
      rw [he.resolve_right (by simp [hk])]
      exact .head _
    · exact .tail _ (ih hm)

theorem mem_put_of_mem {m : List (Key × α)} {e : Key × α} (he : e ∈ m)
    (hk : e.1.same k = false) : e ∈ put k v m := by
  induction m with
  | nil => cases he
  | cons e' m ih =>
    rw [put]
    cases he with
    | head =>
      rw [if_neg (by simp [hk])]
      exact .head _
    | tail _ he =>
      split
      · exact .tail _ he
      · exact .tail _ (ih he)

theorem mem_putAll_of_mem {m : List (Key × α)} {e : Key × α} (he : e ∈ m)
    (hk : ∀ e' ∈ es, e.1.same e'.1 = false) : e ∈ putAll es m := by
  induction es generalizing m with
  | nil => exact he
  | cons e' es ih =>
    rw [List.forall_mem_cons] at hk
    exact ih (mem_put_of_mem he hk.1) hk.2

theorem mem_ofList_of_last {before after : List (Key × α)}
    (hb : ∀ e ∈ before, e.1 = k ∨ e.1.same k = false) (ha : ∀ e ∈ after, k.same e.1 = false) :
    (k, v) ∈ ofList (before ++ (k, v) :: after) := by
  have split : ofList (before ++ (k, v) :: after) = putAll after (put k v (ofList before)) := by
    rw [ofList_eq_putAll, putAll, List.foldl_append]
    rfl
  rw [split]
  refine mem_putAll_of_mem (mem_put_self fun e he => ?_) ha
  obtain ⟨e', he', hk⟩ := List.mem_map.1 (key_mem_of_mem_ofList he)
  rw [← hk]
  exact hb e' he'

/-- Nothing is lost and nothing doubled: one entry for each name that was written. -/
structure Merges (es ms : List (Key × α)) : Prop where
  keys : ms.map (·.1) = (es.map (·.1)).eraseDupsBy fun j k => k.same j
  distinct : Distinct ms
  last : ∀ e ∈ ms, IsLast es e

theorem merges_ofList (es : List (Key × α)) : Merges es (ofList es) where
  keys := keys_ofList es
  distinct := distinct_ofList es
  last _ := isLast_ofList

def OnlyRepeats (s : String) (es : List (Key × α)) : Prop :=
  es.Pairwise fun a b => a.1 = .text s ∧ b.1 = .text s ∨ a.1.same b.1 = false

/-- The entries under a name become one, in place of the first and with the value of the last; all
others stay as they are. -/
inductive Gathers (s : String) : List (Key × α) → List (Key × α) → Prop
  | none {fs : List (Key × α)} : (∀ f ∈ fs, f.1 ≠ .text s) → Gathers s fs fs
  | some {before after : List (Key × α)} {w : α} : (∀ f ∈ before, f.1 ≠ .text s) →
      Gathers s (before ++ (.text s, w) :: after) (before ++
        (.text s, latest (.text s) w after) :: after.filter fun f => !(Key.text s).same f.1)

theorem Gathers.cons {s : String} {fs gs : List (Key × α)} {f : Key × α} (hf : f.1 ≠ .text s)
    (h : Gathers s fs gs) : Gathers s (f :: fs) (f :: gs) := by
  cases h with
  | none h => exact .none (List.forall_mem_cons.2 ⟨hf, h⟩)
  | @some before after w h =>
    rw [← List.cons_append, ← List.cons_append]
    exact .some (List.forall_mem_cons.2 ⟨hf, h⟩)

theorem OnlyRepeats.distinct_filter {s : String} (h : OnlyRepeats s es) :
    Distinct (es.filter fun e => !(Key.text s).same e.1) := by
  rw [Distinct, List.pairwise_filter]
  refine h.imp fun hab ha hb => hab.resolve_left ?_
  rintro ⟨ha', -⟩
  simp [ha'] at ha

theorem OnlyRepeats.gathers {s : String} (h : OnlyRepeats s es) : Gathers s es (ofList es) := by
  induction es with
  | nil => exact .none (by simp)
  | cons e es ih =>
    obtain ⟨k, v⟩ := e
    obtain ⟨he, hes⟩ := List.pairwise_cons.1 h
    rw [ofList_cons]
    by_cases hk : k = .text s
    · subst hk
      rw [ofList_of_distinct (OnlyRepeats.distinct_filter hes)]
      exact @Gathers.some _ s [] es v (by simp)
    · have fresh : ∀ e ∈ es, k.same e.1 = false := fun e h =>
        (he e h).resolve_left fun h => hk h.1
      rw [latest_of_fresh v fresh, List.filter_eq_self.2 (by simpa using fresh)]
      exact (ih hes).cons hk

end Entries

end Allowlist
