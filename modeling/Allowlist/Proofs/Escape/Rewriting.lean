import Allowlist.Proofs.Escape.Alphabet

namespace Allowlist.Escape

structure IsRewriting (e : Escape) (barred : List Char) : Prop where
  clean_iff : ∀ s : String, s.toList.any e.isDirty = false ↔ e.scrub s = s
  apply_eq : ∀ s, e.apply s = e.scrub s
  idempotent : ∀ s, e.apply (e.apply s) = e.apply s
  append : ∀ s t, e.apply (s ++ t) = e.apply s ++ e.apply t
  length_le : ∀ s, (e.apply s).length ≤ s.length
  fixed_iff : ∀ s, e.apply s = s ↔ Within 0x20 barred s

variable {e : Escape}

theorem scrub_append (e : Escape) (s t : String) : e.scrub (s ++ t) = e.scrub s ++ e.scrub t := by
  rw [scrub, String.toList_append, List.filterMap_append, String.ofList_append, scrub, scrub]

theorem length_scrub_le (e : Escape) (s : String) : (e.scrub s).length ≤ s.length := by
  rw [scrub, String.length_ofList, ← String.length_toList]
  exact List.length_filterMap_le e.char s.toList

theorem Proper.isRewriting (h : e.Proper) : e.IsRewriting ('\'' :: '"' :: e.symbols) where
  clean_iff s := by rw [← apply_eq_scrub, h.apply_eq_self_iff]
  apply_eq := e.apply_eq_scrub
  idempotent := h.apply_apply
  append s t := by rw [apply_eq_scrub, apply_eq_scrub, apply_eq_scrub, scrub_append]
  length_le s := by
    rw [apply_eq_scrub]
    exact length_scrub_le e s
  fixed_iff s := h.apply_eq_self_iff.trans clean_iff_within

/-- All three kinds of escaping bar quotes, ids also bar what separates the fields of a log, and
names the dots of a path too. -/
theorem escaping_rewrites :
    forValue.IsRewriting ['\'', '"'] ∧
    forId.IsRewriting ['\'', '"', ':', ';', ',', ' '] ∧
    forName.IsRewriting ['\'', '"', '.', ':', ';', ',', ' '] :=
  ⟨proper_forValue.isRewriting, proper_forId.isRewriting, proper_forName.isRewriting⟩

end Allowlist.Escape
