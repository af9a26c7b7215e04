import Allowlist.Proofs.Escape.Fixed

namespace Allowlist

namespace Escape

section

variable {e : Escape} {c : Char}

theorem char_beyond (h : isAscii c = false) : e.char c = some '?' := by
  simp [char, h]

theorem char_lineOrTab (h : isAscii c = true) (hl : isLineOrTab c = true) :
    e.char c = some (if e.spaces then ' ' else '_') := by
  simp [char, h, hl]

theorem char_symbol (h : isAscii c = true) (hl : isLineOrTab c = false)
    (hs : e.isSymbol c = true) : e.char c = some '_' := by
  simp [char, h, hl, hs]

theorem char_quote (h : isQuote c = true) (hs : e.isSymbol c = false) : e.char c = none := by
  obtain rfl | rfl : c = '\'' ∨ c = '"' := by simpa [isQuote] using h
  · simp [char, hs, isAscii, isLineOrTab, isQuote]
  · simp [char, hs, isAscii, isLineOrTab, isQuote]

end

theorem isSymbol_id_of_value {c : Char} (h : forValue.isSymbol c = true) :
    forId.isSymbol c = true := by
  simp_all [isSymbol, forValue, or_assoc]

theorem isSymbol_id_of_quote {c : Char} (h : isQuote c = true) : forId.isSymbol c = false := by
  obtain rfl | rfl : c = '\'' ∨ c = '"' := by simpa [isQuote] using h
  · decide
  · decide

theorem char_value_id (c : Char) : (forValue.char c).bind forId.char = forId.char c := by
  by_cases hascii : isAscii c = false
  · rw [char_beyond hascii, char_beyond hascii]
    rfl
  rw [Bool.not_eq_false] at hascii
  by_cases hline : isLineOrTab c = true
  · rw [char_lineOrTab hascii hline, char_lineOrTab hascii hline]
    rfl
  rw [Bool.not_eq_true] at hline
  by_cases hsymbol : forValue.isSymbol c = true
  · rw [char_symbol hascii hline hsymbol,
      char_symbol hascii hline (isSymbol_id_of_value hsymbol)]
    rfl
  rw [Bool.not_eq_true] at hsymbol
  by_cases hquote : isQuote c = true
  · rw [char_quote hquote hsymbol, char_quote hquote (isSymbol_id_of_quote hquote)]
    rfl
  · rw [char_eq_self_of_not_dirty _ (by simp [isDirty, hascii, hline, hsymbol, hquote])]
    rfl

@[simp] theorem id_value (s : String) : id (value s) = id s := by
  simp only [id, value, apply_eq_scrub, scrub, String.toList_ofList, List.filterMap_filterMap,
    char_value_id]

theorem isDirty_value_of_id {c : Char} (h : forId.isDirty c = false) :
    forValue.isDirty c = false := by
  simp_all [isDirty, isSymbol, forId, forValue]

@[simp] theorem value_id (s : String) : value (id s) = id s := by
  apply apply_of_clean
  have clean := proper_forId.clean_apply s
  rw [List.any_eq_false] at clean ⊢
  intro c hc
  simpa using isDirty_value_of_id (by simpa using clean c hc)

theorem id_eq_self_iff {s : String} : id s = s ↔ s.toList.any forId.isDirty = false :=
  proper_forId.apply_eq_self_iff

theorem legacy?_eq_none_iff {s : String} : legacy? s = none ↔ id s = s := by
  rw [id_eq_self_iff, legacy?]
  simp

theorem legacy?_of_ne {s : String} (h : id s ≠ s) : legacy? s = some (id s) := by
  rw [Ne, id_eq_self_iff, Bool.not_eq_false] at h
  rw [legacy?, if_pos h, id, apply, if_pos h]

end Escape

namespace Rule

theorem verdictOf_eq_accepted {b : Bool} : verdictOf b = .accepted ↔ b = true := by
  cases b <;> simp [verdictOf]

theorem acceptsEither_iff {p : String → Bool} {s : String} :
    acceptsEither p s = true ↔ p s = true ∨ p (Escape.id s) = true := by
  by_cases h : Escape.id s = s
  · simp [acceptsEither, Escape.legacy?_eq_none_iff.2 h, h]
  · simp [acceptsEither, Escape.legacy?_of_ne h]

variable {ctx : Context} {s : String}

theorem enum_accepts_iff {vs : List String} :
    (enum vs).evaluate s ctx = .ok .accepted ↔ s ∈ vs ∨ Escape.id s ∈ vs := by
  simp [evaluate, verdictOf_eq_accepted, acceptsEither_iff]

theorem regexp_accepts_iff {r : Regexp} :
    (regexp r).evaluate s ctx = .ok .accepted ↔
      r.accepts s = true ∨ r.accepts (Escape.id s) = true := by
  simp [evaluate, verdictOf_eq_accepted, acceptsEither_iff]

theorem enum_accepts_value {vs : List String} (hvs : ∀ u ∈ vs, Escape.value u = u)
    (h : s ∈ vs ∨ Escape.id s ∈ vs) : Escape.value s ∈ vs ∨ Escape.id (Escape.value s) ∈ vs := by
  rw [Escape.id_value]
  cases h with
  | inl h => exact .inl ((hvs s h).symm ▸ h)
  | inr h => exact .inr h

/-- Escaping for values and for ids absorb each other, and the form of a text that older rules know
is its escaped form. So an enumeration that accepts a text still knows what is recorded of it, and
accepts that if its own texts are recorded as they are; and no rule accepts the escaped form of a
text alone. -/
theorem accepted_text_stays_known (s : String) (ctx : Context) :
    Escape.id (Escape.value s) = Escape.id s ∧ Escape.value (Escape.id s) = Escape.id s ∧
    (Escape.legacy? s = none ↔ Escape.id s = s) ∧
    (Escape.id s ≠ s → Escape.legacy? s = some (Escape.id s)) ∧
    (∀ vs, (enum vs).evaluate s ctx = .ok .accepted →
      (Escape.id (Escape.value s) ∈ vs ∨ Escape.id (Escape.value s) ∈ vs.map Escape.id) ∧
      ((∀ u ∈ vs, Escape.value u = u) →
        (enum vs).evaluate (Escape.value s) ctx = .ok .accepted)) ∧
    (∀ vs, (enum vs).evaluate (Escape.id s) ctx = .ok .accepted →
      (enum vs).evaluate s ctx = .ok .accepted) ∧
    ∀ r, (regexp r).evaluate (Escape.id s) ctx = .ok .accepted →
      (regexp r).evaluate s ctx = .ok .accepted := by
  simp only [enum_accepts_iff, regexp_accepts_iff]
  refine ⟨Escape.id_value s, Escape.value_id s, Escape.legacy?_eq_none_iff, Escape.legacy?_of_ne,
    ?_, ?_, ?_⟩
  · intro vs h
    refine ⟨?_, fun hvs => enum_accepts_value hvs h⟩
    rw [Escape.id_value]
    cases h with
    | inl h => exact .inr (List.mem_map_of_mem h)
    | inr h => exact .inl h
  · intro vs h
    rw [Escape.id_id, or_self] at h
    exact .inr h
  · intro r h
    rw [Escape.id_id, or_self] at h
    exact .inr h

def quotedText : String := "it's\t1;é"

def withoutSpaces : Regexp :=
  ⟨"[^ ]*", .loop .greedy 0 none (.char .initial ⟨[(32, 32)], [], true⟩)⟩

theorem quotedText_stays_known :
    Escape.id quotedText ≠ quotedText ∧
    Escape.legacy? quotedText = some "its_1_?" ∧ Escape.value quotedText = "its 1;?" ∧
    (enum ["its_1_?", "z"]).evaluate quotedText ⟨"e", none⟩ = .ok .accepted ∧
    (∀ u ∈ ["its_1_?", "z"], Escape.value u = u) ∧
    (enum ["its_1_?", "z"]).evaluate "its 1;?" ⟨"e", none⟩ = .ok .accepted ∧
    (regexp withoutSpaces).evaluate "its_1_?" ⟨"e", none⟩ = .ok .accepted ∧
    (regexp withoutSpaces).evaluate quotedText ⟨"e", none⟩ = .ok .accepted := by
  obtain ⟨-, -, -, legacy, recorded, again, matched⟩ :=
    accepted_text_stays_known quotedText ⟨"e", none⟩
  have changed : Escape.id quotedText ≠ quotedText := by decide
  have shown : Escape.value quotedText = "its 1;?" := by decide
  have listed : (enum ["its_1_?", "z"]).evaluate (Escape.id quotedText) ⟨"e", none⟩ =
      .ok .accepted := rfl
  have spaceless : (regexp withoutSpaces).evaluate (Escape.id quotedText) ⟨"e", none⟩ =
      .ok .accepted := rfl
  have accepted := again _ listed
  have kept : ∀ u ∈ ["its_1_?", "z"], Escape.value u = u := by decide
  exact ⟨changed, legacy changed, shown, accepted, kept, shown ▸ (recorded _ accepted).2 kept,
    spaceless, matched _ spaceless⟩

end Rule

end Allowlist
