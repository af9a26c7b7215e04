namespace Allowlist.Text

def cut (sep : Char) : List Char → List (List Char)
  | [] => [[]]
  | c :: cs =>
    if c = sep then [] :: cut sep cs
    else match cut sep cs with
      | [] => [[c]]
      | p :: ps => (c :: p) :: ps

def pieces (sep : Char) (s : String) : List String := (cut sep s.toList).map String.ofList

def join (sep : String) : List String → String
  | [] => ""
  | [s] => s
  | s :: ss => s ++ sep ++ join sep ss

theorem exists_cut_eq (sep : Char) (cs : List Char) :
    ∃ ps, cut sep cs = cs.takeWhile (· ≠ sep) :: ps := by
  induction cs with
  | nil => exact ⟨[], rfl⟩
  | cons c cs ih =>
    obtain ⟨ps, h⟩ := ih
    by_cases hc : c = sep
    · exact ⟨cut sep cs, by simp [cut, hc]⟩
    · exact ⟨ps, by simp [cut, hc, h]⟩

theorem cut_eq_splitOn (sep : Char) (cs : List Char) : cut sep cs = cs.splitOn sep := by
  induction cs with
  | nil => simp [cut]
  | cons c cs ih =>
    obtain ⟨ps, hps⟩ := exists_cut_eq sep cs
    rw [cut, List.splitOn_cons_eq_if_modifyHead, ← ih, hps]
    simp

theorem length_cut (sep : Char) (cs : List Char) : (cut sep cs).length = cs.count sep + 1 := by
  induction cs with
  | nil => rfl
  | cons c cs ih =>
    by_cases hc : c = sep
    · simp [cut, hc, ih]
    · obtain ⟨ps, hps⟩ := exists_cut_eq sep cs
      simpa [cut, hc, hps] using ih

theorem length_pieces (sep : Char) (s : String) :
    (pieces sep s).length = s.toList.count sep + 1 := by
  rw [pieces, List.length_map, length_cut]

theorem pieces_append (sep : Char) (s t : String) :
    pieces sep (s ++ String.singleton sep ++ t) = pieces sep s ++ pieces sep t := by
  simp [pieces, cut_eq_splitOn, List.splitOn_append_cons_self]

theorem not_mem_of_mem_cut {sep : Char} {cs p : List Char} (h : p ∈ cut sep cs) : sep ∉ p := by
  induction cs generalizing p with
  | nil =>
    cases List.mem_singleton.1 h
    exact List.not_mem_nil
  | cons c cs ih =>
    by_cases hc : c = sep
    · rw [cut, if_pos hc, List.mem_cons] at h
      obtain rfl | h := h
      · exact List.not_mem_nil
      · exact ih h
    · obtain ⟨ps, hps⟩ := exists_cut_eq sep cs
      rw [hps] at ih
      rw [cut, if_neg hc, hps, List.mem_cons] at h
      obtain rfl | h := h
      · exact List.not_mem_cons_of_ne_of_not_mem (Ne.symm hc) (ih (.head _))
      · exact ih (.tail _ h)

theorem not_mem_of_mem_pieces {sep : Char} {s p : String} (h : p ∈ pieces sep s) :
    sep ∉ p.toList := by
  obtain ⟨cs, hcs, rfl⟩ := List.mem_map.1 h
  rw [String.toList_ofList]
  exact not_mem_of_mem_cut hcs

theorem join_eq_intercalate (sep : String) (ss : List String) :
    join sep ss = sep.intercalate ss := by
  induction ss with
  | nil => rfl
  | cons s ss ih =>
    cases ss with
    | nil => rfl
    | cons t ss => simp only [join, ih, String.intercalate_cons_cons]

theorem pieces_join {sep : Char} {ss : List String} (hne : ss ≠ [])
    (hsep : ∀ s ∈ ss, sep ∉ s.toList) : pieces sep (join (String.singleton sep) ss) = ss := by
  have hchars : ∀ cs ∈ ss.map String.toList, sep ∉ cs := by simpa using hsep
  have htext : (join (String.singleton sep) ss).toList =
      [sep].intercalate (ss.map String.toList) := by
    rw [join_eq_intercalate, String.toList_intercalate, String.toList_singleton]
  rw [pieces, htext, cut_eq_splitOn, List.splitOn_intercalate sep hchars (by simpa using hne)]
  simp

theorem join_pieces (sep : Char) (s : String) :
    join (String.singleton sep) (pieces sep s) = s := by
  rw [← String.toList_inj, join_eq_intercalate, String.toList_intercalate, String.toList_singleton,
    pieces, cut_eq_splitOn, List.map_map, Function.comp_def]
  simp only [String.toList_ofList, List.map_id']
  exact List.intercalate_splitOn sep

end Allowlist.Text
