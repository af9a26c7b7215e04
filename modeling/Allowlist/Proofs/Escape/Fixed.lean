import Allowlist.RuleSet.Walk

namespace Allowlist

namespace Escape

variable {e : Escape}

/-- What is written in place of other characters is kept itself. -/
structure Proper (e : Escape) : Prop where
  beyond : e.isDirty '?' = false
  symbol : e.isDirty '_' = false
  space : e.spaces = true → e.isDirty ' ' = false

theorem proper_forValue : forValue.Proper := ⟨by decide, by decide, by decide⟩

theorem proper_forId : forId.Proper := ⟨by decide, by decide, by decide⟩

theorem proper_forName : forName.Proper := ⟨by decide, by decide, by decide⟩

theorem Proper.isDirty_char (h : e.Proper) {c d : Char} (hd : e.char c = some d) :
    e.isDirty d = false := by
  unfold char at hd
  split at hd
  · cases hd
    exact h.beyond
  split at hd
  · cases hd
    split
    · rename_i hs
      exact h.space hs
    · exact h.symbol
  split at hd
  · cases hd
    exact h.symbol
  split at hd
  · cases hd
  · cases hd
    simp_all [isDirty]

theorem Proper.clean_apply (h : e.Proper) (s : String) :
    (e.apply s).toList.any e.isDirty = false := by
  rw [apply_eq_scrub, scrub, String.toList_ofList, List.any_eq_false]
  intro d hd
  obtain ⟨c, _, hc⟩ := List.mem_filterMap.1 hd
  simp [h.isDirty_char hc]

theorem apply_of_clean {s : String} (h : s.toList.any e.isDirty = false) : e.apply s = s := by
  simp [apply, h]

theorem Proper.apply_eq_self_iff (h : e.Proper) {s : String} :
    e.apply s = s ↔ s.toList.any e.isDirty = false := by
  constructor
  · intro hs
    rw [← hs]
    exact h.clean_apply s
  · exact apply_of_clean

theorem Proper.apply_apply (h : e.Proper) (s : String) : e.apply (e.apply s) = e.apply s :=
  apply_of_clean (h.clean_apply s)

@[simp] theorem value_value (s : String) : value (value s) = value s :=
  proper_forValue.apply_apply s

@[simp] theorem id_id (s : String) : id (id s) = id s := proper_forId.apply_apply s

@[simp] theorem value_mark (u : Verdict) : value u.mark = u.mark := by
  apply apply_of_clean
  cases u <;> decide

theorem name_of_isMark {s : String} (h : isMark s = true) : name s = s := if_pos h

@[simp] theorem name_name (s : String) : name (name s) = name s := by
  by_cases h : isMark s = true
  · rw [name_of_isMark h, name_of_isMark h]
  have hs : name s = forName.apply s := if_neg h
  rw [hs]
  by_cases h' : isMark (forName.apply s) = true
  · exact name_of_isMark h'
  · rw [name, if_neg h', proper_forName.apply_apply]

@[simp] theorem name_undefinedName : name undefinedName = undefinedName :=
  name_of_isMark (isMark_mark _)

theorem name_ne_undefinedName {s : String} (h : s ≠ undefinedName) :
    name s ≠ undefinedName := by
  intro hs
  by_cases hm : isMark s = true
  · rw [name_of_isMark hm] at hs
    exact h hs
  · rw [name, if_neg hm] at hs
    have clean := proper_forName.clean_apply s
    rw [hs] at clean
    revert clean
    decide

end Escape

end Allowlist
