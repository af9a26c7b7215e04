import Allowlist.Text.Ranges

namespace Allowlist.Text

def blanks : Ranges :=
  [(9, 13), (28, 32), (133, 133), (160, 160), (5760, 5760), (8192, 8202), (8232, 8233),
   (8239, 8239), (8287, 8287), (12288, 12288)]

def isBlank (c : Char) : Bool := blanks.has c.toNat

def isAsciiBlank (c : Char) : Bool := c == ' ' || ('\t' ≤ c && c ≤ '\r')

def isBlankText (s : String) : Bool := s.toList.all isBlank

def strip (p : Char → Bool) (cs : List Char) : List Char :=
  ((cs.dropWhile p).reverse.dropWhile p).reverse

theorem exists_strip_eq (p : Char → Bool) (cs : List Char) : ∃ before after,
    cs = before ++ strip p cs ++ after ∧ (∀ c ∈ before, p c = true) ∧ ∀ c ∈ after, p c = true := by
  have front := List.takeWhile_append_dropWhile (p := p) (l := cs)
  have back := List.takeWhile_append_dropWhile (p := p) (l := (cs.dropWhile p).reverse)
  refine ⟨cs.takeWhile p, ((cs.dropWhile p).reverse.takeWhile p).reverse, ?_, ?_, ?_⟩
  · rw [strip, List.append_assoc, ← List.reverse_append, back, List.reverse_reverse, front]
  · exact List.all_eq_true.1 List.all_takeWhile
  · simpa using List.all_eq_true.1 (List.all_takeWhile (p := p) (l := (cs.dropWhile p).reverse))

theorem strip_append {p : Char → Bool} {before mid after : List Char}
    (hb : ∀ c ∈ before, p c = true) (ha : ∀ c ∈ after, p c = true)
    (hfirst : ∃ c cs, mid = c :: cs ∧ p c = false)
    (hlast : ∃ cs c, mid = cs ++ [c] ∧ p c = false) : strip p (before ++ mid ++ after) = mid := by
  have front : (before ++ mid ++ after).dropWhile p = mid ++ after := by
    obtain ⟨c, cs, rfl, hc⟩ := hfirst
    rw [List.append_assoc, List.dropWhile_append_of_pos hb, List.cons_append,
      List.dropWhile_cons_of_neg (by simp [hc])]
  obtain ⟨cs, c, rfl, hc⟩ := hlast
  rw [strip, front, List.reverse_append, List.dropWhile_append_of_pos (by simpa using ha),
    List.reverse_append, List.reverse_singleton, List.singleton_append,
    List.dropWhile_cons_of_neg (by simp [hc])]
  simp

theorem not_of_dropWhile_eq_cons {p : Char → Bool} {c : Char} {cs ds : List Char}
    (h : cs.dropWhile p = c :: ds) : p c = false := by
  simpa [h] using List.head?_dropWhile_not p cs

theorem strip_ends {p : Char → Bool} {cs : List Char} (h : strip p cs ≠ []) :
    (∃ c ds, strip p cs = c :: ds ∧ p c = false) ∧
      ∃ ds c, strip p cs = ds ++ [c] ∧ p c = false := by
  constructor
  · obtain ⟨c, ds, hstrip⟩ := List.exists_cons_of_ne_nil h
    refine ⟨c, ds, hstrip, ?_⟩
    have back := List.takeWhile_append_dropWhile (p := p) (l := (cs.dropWhile p).reverse)
    have front := congrArg List.reverse back
    rw [List.reverse_append, ← strip, hstrip, List.reverse_reverse] at front
    exact not_of_dropWhile_eq_cons front.symm
  · rw [strip] at h ⊢
    obtain ⟨c, ds, hback⟩ := List.exists_cons_of_ne_nil (List.reverse_ne_nil_iff.1 h)
    exact ⟨ds.reverse, c, by rw [hback, List.reverse_cons], not_of_dropWhile_eq_cons hback⟩

theorem strip_eq_nil_iff {p : Char → Bool} {cs : List Char} :
    strip p cs = [] ↔ ∀ c ∈ cs, p c = true := by
  constructor
  · intro h
    obtain ⟨before, after, heq, hb, ha⟩ := exists_strip_eq p cs
    rw [h, List.append_nil] at heq
    intro c hc
    rw [heq] at hc
    exact (List.mem_append.1 hc).elim (hb c) (ha c)
  · intro h
    have gone : (cs ++ []).dropWhile p = [].dropWhile p := List.dropWhile_append_of_pos h
    rw [List.append_nil] at gone
    rw [strip, gone]
    rfl

def trim (s : String) : String := String.ofList (strip isBlank s.toList)

theorem trim_eq_empty_iff {s : String} : trim s = "" ↔ isBlankText s = true := by
  rw [trim, String.ofList_eq_empty_iff, strip_eq_nil_iff, isBlankText, List.all_eq_true]

end Allowlist.Text
