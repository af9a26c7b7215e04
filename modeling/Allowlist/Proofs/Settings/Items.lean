import Allowlist.Settings

namespace Allowlist.Settings

structure IsItem (s : String) : Prop where
  noComma : ',' ∉ s.toList
  first : ∃ c cs, s.toList = c :: cs ∧ Text.isBlank c = false
  last : ∃ cs c, s.toList = cs ++ [c] ∧ Text.isBlank c = false

/-- Pieces that stand for items: each item with white space before and after it, and blank pieces
before, between and after them. -/
inductive Padded : List String → List String → Prop
  | nil : Padded [] []
  | blank {p ps xs} : Text.isBlankText p = true → Padded ps xs → Padded (p :: ps) xs
  | item {before x after ps xs} : Text.isBlankText before = true → Text.isBlankText after = true →
      Padded ps xs → Padded ((before ++ x ++ after) :: ps) (x :: xs)

variable {s t x : String} {ps xs : List String}

theorem mem_items : x ∈ items t ↔ x ≠ "" ∧ ∃ p ∈ Text.pieces ',' t, Text.trim p = x := by
  simp [items, and_comm]

theorem IsItem.ne_empty (h : IsItem x) : x ≠ "" := by
  rintro rfl
  obtain ⟨c, cs, hc, -⟩ := h.first
  cases hc

theorem IsItem.trim_eq (h : IsItem x) {before after : String}
    (hb : Text.isBlankText before = true) (ha : Text.isBlankText after = true) :
    Text.trim (before ++ x ++ after) = x := by
  rw [Text.isBlankText, List.all_eq_true] at hb ha
  rw [Text.trim, String.toList_append, String.toList_append,
    Text.strip_append hb ha h.first h.last, String.ofList_toList]

theorem exists_trim_eq (s : String) : ∃ before after,
    s = before ++ Text.trim s ++ after ∧ Text.isBlankText before = true ∧
      Text.isBlankText after = true := by
  obtain ⟨before, after, heq, hb, ha⟩ := Text.exists_strip_eq Text.isBlank s.toList
  refine ⟨String.ofList before, String.ofList after, ?_, ?_, ?_⟩
  · rw [Text.trim, ← String.ofList_append, ← String.ofList_append, ← heq, String.ofList_toList]
  · simpa [Text.isBlankText] using hb
  · simpa [Text.isBlankText] using ha

theorem isItem_trim (hcomma : ',' ∉ s.toList) (h : Text.trim s ≠ "") : IsItem (Text.trim s) := by
  obtain ⟨before, after, heq, -⟩ := exists_trim_eq s
  have hstrip : Text.strip Text.isBlank s.toList ≠ [] := by
    simpa [Text.trim, String.ofList_eq_empty_iff] using h
  have ends := Text.strip_ends hstrip
  refine ⟨?_, ?_, ?_⟩
  · intro hmem
    apply hcomma
    rw [heq, String.toList_append, String.toList_append]
    exact List.mem_append_left _ (List.mem_append_right _ hmem)
  · simpa [Text.trim] using ends.1
  · simpa [Text.trim] using ends.2

theorem isItem_of_mem_items (h : x ∈ items t) : IsItem x := by
  obtain ⟨hne, p, hp, rfl⟩ := mem_items.1 h
  exact isItem_trim (Text.not_mem_of_mem_pieces hp) hne

theorem padded_trim (ps : List String) : Padded ps ((ps.map Text.trim).filter (· ≠ "")) := by
  induction ps with
  | nil => exact .nil
  | cons p ps ih =>
    by_cases hp : Text.trim p = ""
    · rw [List.map_cons, List.filter_cons_of_neg (by simpa using hp)]
      exact .blank (Text.trim_eq_empty_iff.1 hp) ih
    · rw [List.map_cons, List.filter_cons_of_pos (by simpa using hp)]
      obtain ⟨before, after, heq, hb, ha⟩ := exists_trim_eq p
      have next : Padded ((before ++ Text.trim p ++ after) :: ps) _ := .item hb ha ih
      rwa [← heq] at next

theorem Padded.trim_eq (h : Padded ps xs) (hxs : ∀ x ∈ xs, IsItem x) :
    (ps.map Text.trim).filter (· ≠ "") = xs := by
  induction h with
  | nil => rfl
  | blank hp _ ih =>
    rw [List.map_cons, Text.trim_eq_empty_iff.2 hp]
    exact ih hxs
  | item hb ha _ ih =>
    rw [List.forall_mem_cons] at hxs
    rw [List.map_cons, hxs.1.trim_eq hb ha,
      List.filter_cons_of_pos (by simpa using hxs.1.ne_empty), ih hxs.2]

theorem not_mem_of_isBlankText (h : Text.isBlankText s = true) : ',' ∉ s.toList := by
  intro hc
  have hblank : Text.isBlank ',' = true := List.all_eq_true.1 h _ hc
  revert hblank
  decide

theorem Padded.noComma (h : Padded ps xs) (hxs : ∀ x ∈ xs, IsItem x) :
    ∀ p ∈ ps, ',' ∉ p.toList := by
  induction h with
  | nil => simp
  | blank hp _ ih => exact List.forall_mem_cons.2 ⟨not_mem_of_isBlankText hp, ih hxs⟩
  | item hb ha _ ih =>
    rw [List.forall_mem_cons] at hxs ⊢
    refine ⟨?_, ih hxs.2⟩
    simp only [String.toList_append, List.mem_append, not_or]
    exact ⟨⟨not_mem_of_isBlankText hb, hxs.1.noComma⟩, not_mem_of_isBlankText ha⟩

theorem Padded.items_join (h : Padded ps xs) (hxs : ∀ x ∈ xs, IsItem x) :
    items (Text.join "," ps) = xs := by
  cases ps with
  | nil =>
    cases h
    rfl
  | cons p ps =>
    have cut : Text.pieces ',' (Text.join "," (p :: ps)) = p :: ps :=
      Text.pieces_join (List.cons_ne_nil p ps) (h.noComma hxs)
    rw [items, cut]
    exact h.trim_eq hxs

theorem padded_self (xs : List String) : Padded xs xs := by
  induction xs with
  | nil => exact .nil
  | cons x xs ih =>
    have next : Padded (("" ++ x ++ "") :: xs) (x :: xs) := .item rfl rfl ih
    simpa using next

/-- What is read of a text are items, in the order in which they stand between its commas and as
often as they do. Items with commas between them are read back, with any white space around them and
any blank pieces in between. So what was read is read again from its own text. -/
theorem lists_have_normal_form :
    (∀ t, (∀ x ∈ items t, IsItem x) ∧
      ∃ ps, t = Text.join "," ps ∧ (∀ p ∈ ps, ',' ∉ p.toList) ∧ Padded ps (items t)) ∧
    (∀ xs, (∀ x ∈ xs, IsItem x) → items (Text.join "," xs) = xs ∧
      ∀ ps, Padded ps xs → items (Text.join "," ps) = xs) ∧
    ∀ t, items (Text.join "," (items t)) = items t := by
  refine ⟨?_, ?_, ?_⟩
  · intro t
    refine ⟨fun _ => isItem_of_mem_items, Text.pieces ',' t, ?_, ?_, padded_trim _⟩
    · exact (Text.join_pieces ',' t).symm
    · exact fun _ => Text.not_mem_of_mem_pieces
  · intro xs hxs
    exact ⟨(padded_self xs).items_join hxs, fun _ h => h.items_join hxs⟩
  · intro t
    exact (padded_self (items t)).items_join fun _ => isItem_of_mem_items

def sampleItems : List String := ["user name", "é", "user name"]

def samplePieces : List String :=
  [" ", "" ++ "user name" ++ "", "\u2003" ++ "é" ++ "\t", "", "\n " ++ "user name" ++ "\u00a0"]

theorem isItem_sampleItems : ∀ x ∈ sampleItems, IsItem x := by
  have name : IsItem "user name" :=
    ⟨by decide, ⟨'u', _, rfl, by decide⟩, ⟨['u', 's', 'e', 'r', ' ', 'n', 'a', 'm'], 'e', rfl,
      by decide⟩⟩
  have accented : IsItem "é" := ⟨by decide, ⟨'é', [], rfl, by decide⟩, ⟨[], 'é', rfl, by decide⟩⟩
  simp [sampleItems, name, accented]

theorem padded_samplePieces : Padded samplePieces sampleItems :=
  .blank rfl (.item rfl rfl (.item rfl rfl (.blank rfl (.item rfl rfl .nil))))

theorem sampleItems_are_read_back :
    (∀ x ∈ sampleItems, IsItem x) ∧ items "user name,é,user name" = sampleItems ∧
    Padded samplePieces sampleItems ∧
    items " ,user name,\u2003é\t,,\n user name\u00a0" = sampleItems := by
  obtain ⟨plain, padded⟩ := lists_have_normal_form.2.1 sampleItems isItem_sampleItems
  have text : Text.join "," sampleItems = "user name,é,user name" := by decide
  have pieces : Text.join "," samplePieces = " ,user name,\u2003é\t,,\n user name\u00a0" := by
    decide
  rw [text] at plain
  have spaced := padded samplePieces padded_samplePieces
  rw [pieces] at spaced
  exact ⟨isItem_sampleItems, plain, padded_samplePieces, spaced⟩

end Allowlist.Settings
