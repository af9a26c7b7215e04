import Allowlist.Proofs.Escape.Values

namespace Allowlist

namespace Escape

def Within (low : Nat) (barred : List Char) (s : String) : Prop :=
  ∀ c ∈ s.toList, low ≤ c.toNat ∧ c.toNat ≤ 0x7E ∧ c ∉ barred

def ValueText : String → Prop := Within 0x20 ['\'', '"']

def IdText : String → Prop := Within 0x21 ['\'', '"', ':', ';', ',']

def NameText (s : String) : Prop :=
  isMark s = true ∨ Within 0x21 ['\'', '"', ':', ';', ',', '.'] s

theorem not_isLineOrTab {c : Char} (h : 0x20 ≤ c.toNat) : isLineOrTab c = false := by
  rw [← Bool.not_eq_true]
  intro hc
  obtain (rfl | rfl) | rfl : (c = '\n' ∨ c = '\r') ∨ c = '\t' := by simpa [isLineOrTab] using hc
  all_goals exact absurd h (by decide)

theorem isDirty_eq_false_iff {e : Escape} {c : Char} :
    e.isDirty c = false ↔
      0x20 ≤ c.toNat ∧ c.toNat ≤ 0x7E ∧ c ≠ '\'' ∧ c ≠ '"' ∧ c ∉ e.symbols := by
  simp only [isDirty, isAscii, isSymbol, isQuote, Bool.or_eq_false_iff, Bool.not_eq_false',
    decide_eq_true_eq, decide_eq_false_iff_not, List.contains_eq_mem]
  constructor
  · rintro ⟨⟨⟨hascii, -⟩, ⟨hsymbol, hlow⟩, hdel⟩, hsingle, hdouble⟩
    exact ⟨by omega, by omega, hsingle, hdouble, hsymbol⟩
  · rintro ⟨hmin, hmax, hsingle, hdouble, hsymbol⟩
    exact ⟨⟨⟨by omega, not_isLineOrTab hmin⟩, ⟨hsymbol, by omega⟩, by omega⟩, hsingle, hdouble⟩

theorem clean_iff_within {e : Escape} {s : String} :
    s.toList.any e.isDirty = false ↔ Within 0x20 ('\'' :: '"' :: e.symbols) s := by
  simp only [List.any_eq_false, Bool.not_eq_true, isDirty_eq_false_iff, Within, List.mem_cons,
    not_or]

theorem Proper.within_apply {e : Escape} (h : e.Proper) (s : String) :
    Within 0x20 ('\'' :: '"' :: e.symbols) (e.apply s) :=
  clean_iff_within.1 (h.clean_apply s)

section

variable {low : Nat} {barred barred' : List Char} {s : String}

theorem Within.of_subset (h : Within low barred s) (hb : ∀ c ∈ barred', c ∈ barred) :
    Within low barred' s := by
  intro c hc
  obtain ⟨hmin, hmax, hfree⟩ := h c hc
  exact ⟨hmin, hmax, fun hc => hfree (hb c hc)⟩

theorem Within.above_space (h : Within 0x20 barred s) (hb : ' ' ∈ barred) :
    Within 0x21 barred s := by
  intro c hc
  obtain ⟨hmin, hmax, hfree⟩ := h c hc
  have hne : c ≠ ' ' := by
    rintro rfl
    exact hfree hb
  have : c.toNat ≠ 0x20 := fun heq => hne (Char.toNat_inj.1 heq)
  exact ⟨by omega, hmax, hfree⟩

end

theorem valueText_value (s : String) : ValueText (value s) := proper_forValue.within_apply s

theorem idText_id (s : String) : IdText (id s) :=
  ((proper_forId.within_apply s).above_space (by decide)).of_subset (by simp [forId])

theorem nameText_name (s : String) : NameText (name s) := by
  by_cases h : isMark s = true
  · rw [name_of_isMark h]
    exact .inl h
  · rw [name, if_neg h]
    have within := (proper_forName.within_apply s).above_space (by decide)
    exact .inr (within.of_subset (by simp [forName]))

end Escape

theorem Key.escape_eq_text {k : Key} {t : String} (h : k.escape = .text t) :
    ∃ s, k = .text s ∧ t = Escape.name s := by
  by_cases hk : k.isText = true
  · obtain ⟨s, rfl⟩ := Key.isText_iff.1 hk
    cases h
    exact ⟨s, rfl, rfl⟩
  · rw [Bool.not_eq_true] at hk
    rw [escape_of_not_isText hk] at h
    subst h
    cases hk

namespace Value

theorem all_escape {L : Scalar → Prop} {E : Entries → Prop} (hl : ∀ s : Scalar, L s.escape)
    (he : ∀ es : Entries, E (Entries.ofList (es.map escapeEntry))) (v : Value) :
    v.escape.All L E := by
  induction v using Value.induction with
  | null => exact .null
  | leaf s => exact .leaf (hl s)
  | seq v vs hv ih =>
    rw [escape_seq hv]
    refine .seq rfl fun w hw => ?_
    obtain ⟨w', hw', rfl⟩ := List.mem_map.1 hw
    exact ih w' hw'
  | map es ih =>
    rw [escape_map]
    refine .map (he es) fun e h => ?_
    obtain ⟨k, hk, _⟩ := Entries.mem_ofList h
    obtain ⟨e', he', heq⟩ := List.mem_map.1 hk
    have hv : e'.2.escape = e.2 := congrArg Prod.snd heq
    rw [← hv]
    exact ih e' he'

abbrev Plain : Value → Prop :=
  All (fun s => ∀ t, s = .text t → Escape.ValueText t)
    fun es => ∀ e ∈ es, ∀ t, e.1 = .text t → Escape.NameText t

theorem plain_escape (v : Value) : v.escape.Plain := by
  refine all_escape ?_ ?_ v
  · intro s t hs
    cases s with
    | text s =>
      cases hs
      exact Escape.valueText_value s
    | _ => cases hs
  · intro es e he t ht
    obtain ⟨e', he', hk⟩ := List.mem_map.1 (Entries.key_mem_of_mem_ofList he)
    obtain ⟨e', -, rfl⟩ := List.mem_map.1 he'
    obtain ⟨s, -, rfl⟩ := Key.escape_eq_text (hk.trans ht)
    exact Escape.nameText_name s

end Value

end Allowlist
