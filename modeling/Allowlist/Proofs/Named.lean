import Allowlist.Named
import Mathlib.Data.Finset.Card

namespace Allowlist.Named

variable {α β : Type}

theorem keys_insert (k : String) (a : α) (es : Named α) :
    (insert k a es).map (·.1) =
      if k ∈ es.map (·.1) then es.map (·.1) else es.map (·.1) ++ [k] := by
  induction es with
  | nil => simp [insert]
  | cons e es ih =>
    obtain ⟨j, b⟩ := e
    by_cases h : j = k
    · simp [insert, h]
    · have h' : k ≠ j := fun hk => h hk.symm
      simp only [insert, h, if_false, List.map_cons, ih, List.mem_cons, h', false_or]
      split <;> rfl

theorem nodup_keys_insert (k : String) (a : α) {es : Named α} (h : (es.map (·.1)).Nodup) :
    ((insert k a es).map (·.1)).Nodup := by
  rw [keys_insert]
  split
  · exact h
  · rename_i hk
    exact List.nodup_append_comm.1 (List.nodup_cons.2 ⟨hk, h⟩)

theorem mem_keys_insert {k j : String} {a : α} {es : Named α} :
    j ∈ (insert k a es).map (·.1) ↔ j ∈ es.map (·.1) ∨ j = k := by
  rw [keys_insert]
  split
  · rename_i hk
    simp only [iff_self_or]
    rintro rfl
    exact hk
  · simp

theorem nodup_keys_foldl (es : List (String × α)) {m : Named α} (h : (m.map (·.1)).Nodup) :
    ((es.foldl (fun m e => insert e.1 e.2 m) m).map (·.1)).Nodup := by
  induction es generalizing m with
  | nil => exact h
  | cons e es ih => exact ih (nodup_keys_insert e.1 e.2 h)

theorem mem_keys_foldl {j : String} {es : List (String × α)} {m : Named α} :
    j ∈ (es.foldl (fun m e => insert e.1 e.2 m) m).map (·.1) ↔
      j ∈ m.map (·.1) ∨ j ∈ es.map (·.1) := by
  induction es generalizing m with
  | nil => simp
  | cons e es ih =>
    rw [List.foldl_cons, ih, mem_keys_insert, List.map_cons, List.mem_cons, or_assoc]

theorem nodup_keys_ofList (es : List (String × α)) : ((ofList es).map (·.1)).Nodup :=
  nodup_keys_foldl es .nil

theorem mem_keys_ofList {j : String} {es : List (String × α)} :
    j ∈ (ofList es).map (·.1) ↔ j ∈ es.map (·.1) := by
  rw [ofList, mem_keys_foldl]
  simp

theorem length_ofList (es : List (String × α)) :
    (ofList es).length = (es.map (·.1)).toFinset.card := by
  have keys : ((ofList es).map (·.1)).toFinset = (es.map (·.1)).toFinset := by
    ext j
    rw [List.mem_toFinset, List.mem_toFinset, mem_keys_ofList]
  rw [← keys, List.toFinset_card_of_nodup (nodup_keys_ofList es), List.length_map]

def mapValues (f : α → β) (es : Named α) : Named β := es.map fun e => (e.1, f e.2)

theorem insert_mapValues (f : α → β) (k : String) (a : α) (es : Named α) :
    insert k (f a) (es.mapValues f) = (insert k a es).mapValues f := by
  induction es with
  | nil => rfl
  | cons e es ih =>
    simp only [mapValues, List.map_cons, insert] at ih ⊢
    split
    · rfl
    · rw [List.map_cons, ih]

theorem ofList_mapValues (f : α → β) (es : List (String × α)) :
    ofList (es.map fun e => (e.1, f e.2)) = (ofList es).mapValues f := by
  suffices ∀ m : Named α, (es.map fun e => (e.1, f e.2)).foldl (fun m e => insert e.1 e.2 m)
      (m.mapValues f) = (es.foldl (fun m e => insert e.1 e.2 m) m).mapValues f from this []
  intro m
  induction es generalizing m with
  | nil => rfl
  | cons e es ih => simp only [List.map_cons, List.foldl_cons, insert_mapValues, ih]

end Allowlist.Named
