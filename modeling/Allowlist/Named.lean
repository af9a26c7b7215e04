/-!
Things under names, in the order in which the names came first. A name counts once: what comes later
under it replaces what was there.
-/

namespace Allowlist

abbrev Named (α : Type) := List (String × α)

namespace Named

variable {α : Type}

def insert (k : String) (a : α) : Named α → Named α
  | [] => [(k, a)]
  | (k', a') :: es => if k' = k then (k', a) :: es else (k', a') :: insert k a es

def ofList (es : List (String × α)) : Named α := es.foldl (fun m e => insert e.1 e.2 m) []

theorem lookup_cons (k k' : String) (a : α) (es : Named α) :
    List.lookup k' ((k, a) :: es) = if k' = k then some a else List.lookup k' es := by
  by_cases h : k' = k
  · simp [h]
  · simp [List.lookup_cons, h, beq_false_of_ne h]

theorem lookup_singleton_eq_none {k k' : String} {a : α} :
    List.lookup k' [(k, a)] = none ↔ k' ≠ k := by
  simp [lookup_cons]

@[simp] theorem lookup_insert (k k' : String) (a : α) (es : Named α) :
    (insert k a es).lookup k' = if k' = k then some a else es.lookup k' := by
  induction es with
  | nil => exact lookup_cons k k' a []
  | cons e es ih =>
    obtain ⟨j, b⟩ := e
    by_cases h : j = k
    · simp only [insert, h, if_true, lookup_cons]
      split <;> rfl
    · simp only [insert, h, if_false, lookup_cons, ih]
      by_cases hj : k' = j
      · simp [hj, h]
      · simp [hj]

theorem lookup_foldl_insert (k : String) (es : List (String × α)) (m : Named α) :
    List.lookup k (es.foldl (fun m e => insert e.1 e.2 m) m) =
      (List.lookup k es.reverse).or (List.lookup k m) := by
  induction es generalizing m with
  | nil => simp
  | cons e es ih =>
    rw [List.foldl_cons, ih, lookup_insert, List.reverse_cons, List.lookup_append, lookup_cons]
    split <;> simp

@[simp] theorem lookup_ofList (k : String) (es : List (String × α)) :
    (ofList es).lookup k = List.lookup k es.reverse := by
  simp [ofList, lookup_foldl_insert]

end Named

end Allowlist
