import Allowlist.Proofs.Numerals
import Allowlist.Proofs.Ranges

namespace Allowlist.Range

/-- `has` tells what is in the intervals between numbers that `read?` reads, to which the lower one
belongs and the upper one does not. `Same` is for texts that write one number in two ways. -/
structure AreIntervals {α : Type} [LE α] [LT α] (read? : String → Option α)
    (Same : String → String → Prop) (has : Range → Option String → Bool) : Prop where
  mem_iff : ∀ {r s}, has r s = true ↔ ∃ a, s.bind read? = some a ∧
    (∀ b, r.lower = some b → b ≠ "" → ∃ l, read? b = some l ∧ l ≤ a) ∧
    ∀ b, r.upper = some b → b ≠ "" → ∃ u, read? b = some u ∧ a < u
  unreadableBound : ∀ {r b s}, r.lower = some b ∨ r.upper = some b → b ≠ "" → read? b = none →
    has r s = false
  unreadable : ∀ {r s}, s.bind read? = none → has r s = false
  convex : ∀ {r x y z a b c}, read? x = some a → read? y = some b → read? z = some c →
    has r (some x) = true → has r (some z) = true → a ≤ b → b ≤ c → has r (some y) = true
  byNumbers : ∀ {r r' s s'}, bound read? r.lower = bound read? r'.lower →
    bound read? r.upper = bound read? r'.upper → s.bind read? = s'.bind read? →
    has r s = has r' s'
  respelled : ∀ {l u x s t}, Same s t → has ⟨l, u⟩ (some s) = has ⟨l, u⟩ (some t) ∧
    has ⟨some s, u⟩ x = has ⟨some t, u⟩ x ∧ has ⟨l, some s⟩ x = has ⟨l, some t⟩ x
  ends : ∀ {l u a b}, read? l = some a → read? u = some b → a < b →
    has ⟨some l, some u⟩ (some l) = true ∧ has ⟨some l, some u⟩ (some u) = false
  void : ∀ {l u a b s}, read? l = some a → read? u = some b → b ≤ a →
    has ⟨some l, some u⟩ s = false

section

variable {α : Type} {read? : String → Option α}

theorem bound_iff {P : α → Prop} {o : Option String} :
    (bound read? o ≠ .unreadable ∧ ∀ n, bound read? o = .at n → P n) ↔
      ∀ b, o = some b → b ≠ "" → ∃ n, read? b = some n ∧ P n := by
  cases o with
  | none => simp [bound]
  | some b =>
    by_cases hb : b = ""
    · simp [bound, hb]
    · cases h : read? b with
      | none => simp [bound, hb, h]
      | some n => simp [bound, hb, h]

theorem contains_iff [LE α] [LT α] {r : Range} {a : α} : r.Contains read? a ↔
    (∀ b, r.lower = some b → b ≠ "" → ∃ l, read? b = some l ∧ l ≤ a) ∧
      ∀ b, r.upper = some b → b ≠ "" → ∃ u, read? b = some u ∧ a < u := by
  rw [← bound_iff, ← bound_iff]
  constructor
  · intro h
    exact ⟨⟨h.lower, h.le⟩, h.upper, h.lt⟩
  · rintro ⟨⟨lower, le⟩, upper, lt⟩
    exact ⟨lower, upper, le, lt⟩

theorem contains_congr [LE α] [LT α] {r r' : Range} {a : α}
    (hl : bound read? r.lower = bound read? r'.lower)
    (hu : bound read? r.upper = bound read? r'.upper) :
    r.Contains read? a ↔ r'.Contains read? a := by
  constructor
  · intro h
    exact ⟨hl ▸ h.lower, hu ▸ h.upper, hl ▸ h.le, hu ▸ h.lt⟩
  · intro h
    exact ⟨hl ▸ h.lower, hu ▸ h.upper, hl ▸ h.le, hu ▸ h.lt⟩

theorem bound_of_read (hempty : read? "" = none) {s : String} {a : α} (h : read? s = some a) :
    bound read? (some s) = .at a := by
  refine bound_eq_at ?_ h
  rintro rfl
  cases hempty.symm.trans h

theorem contains_between [LE α] [LT α] (hempty : read? "" = none) {l u : String} {a b c : α}
    (hl : read? l = some a) (hu : read? u = some b) :
    (⟨some l, some u⟩ : Range).Contains read? c ↔ a ≤ c ∧ c < b := by
  have lower := bound_of_read hempty hl
  have upper := bound_of_read hempty hu
  constructor
  · intro h
    exact ⟨h.le a lower, h.lt b upper⟩
  · rintro ⟨hac, hcb⟩
    exact ⟨by simp [lower], by simp [upper], by simpa [lower] using hac, by simpa [upper] using hcb⟩

variable [LinearOrder α] {Same : String → String → Prop} {has : Range → Option String → Bool}

theorem AreIntervals.of_contains (hempty : read? "" = none)
    (hsame : ∀ {s t}, Same s t → ∃ a, read? s = some a ∧ read? t = some a)
    (hhas : ∀ r s, has r s = true ↔ ∃ a, s.bind read? = some a ∧ r.Contains read? a) :
    AreIntervals read? Same has := by
  have byNumbers : ∀ {r r' s s'}, bound read? r.lower = bound read? r'.lower →
      bound read? r.upper = bound read? r'.upper → s.bind read? = s'.bind read? →
      has r s = has r' s' := by
    intro r r' s s' hl hu hs
    rw [Bool.eq_iff_iff, hhas, hhas, hs]
    exact exists_congr fun a => and_congr_right fun _ => contains_congr hl hu
  refine ⟨?mem_iff, ?unreadableBound, ?unreadable, ?convex, byNumbers, ?respelled, ?ends, ?void⟩
  case mem_iff =>
    intro r s
    rw [hhas]
    exact exists_congr fun a => and_congr_right fun _ => contains_iff
  case unreadableBound =>
    intro r b s hb hne hread
    rw [Bool.eq_false_iff, Ne, hhas]
    rintro ⟨a, -, h⟩
    obtain ⟨hlower, hupper⟩ := contains_iff.1 h
    cases hb with
    | inl hb =>
      obtain ⟨_, hn, -⟩ := hlower b hb hne
      cases hread.symm.trans hn
    | inr hb =>
      obtain ⟨_, hn, -⟩ := hupper b hb hne
      cases hread.symm.trans hn
  case unreadable =>
    intro r s hs
    rw [Bool.eq_false_iff, Ne, hhas, hs]
    simp
  case convex =>
    intro r x y z a b c hx hy hz hxr hzr hab hbc
    obtain ⟨a', ha, hxr⟩ := (hhas _ _).1 hxr
    obtain ⟨c', hc, hzr⟩ := (hhas _ _).1 hzr
    cases hx.symm.trans ha
    cases hz.symm.trans hc
    refine (hhas _ _).2 ⟨b, hy, hxr.lower, hxr.upper, fun n hn => ?_, fun n hn => ?_⟩
    · exact (hxr.le n hn).trans hab
    · exact hbc.trans_lt (hzr.lt n hn)
  case respelled =>
    intro l u x s t h
    obtain ⟨a, hs, ht⟩ := hsame h
    have bounds := (bound_of_read hempty hs).trans (bound_of_read hempty ht).symm
    exact ⟨byNumbers rfl rfl (hs.trans ht.symm), byNumbers bounds rfl rfl,
      byNumbers rfl bounds rfl⟩
  case ends =>
    intro l u a b hl hu hab
    constructor
    · exact (hhas _ _).2 ⟨a, hl, (contains_between hempty hl hu).2 ⟨le_rfl, hab⟩⟩
    · rw [Bool.eq_false_iff, Ne, hhas]
      rintro ⟨c, hc, h⟩
      cases hu.symm.trans hc
      exact lt_irrefl b ((contains_between hempty hl hu).1 h).2
  case void =>
    intro l u a b s hl hu hba
    rw [Bool.eq_false_iff, Ne, hhas]
    rintro ⟨c, -, h⟩
    obtain ⟨hac, hcb⟩ := (contains_between hempty hl hu).1 h
    exact lt_irrefl c (hcb.trans_le (hba.trans hac))

theorem any_has_iff {lt : α → α → Bool} (hlt : ∀ a b, lt a b = true ↔ a < b) {r : Range}
    {s : Option String} : (s.bind read?).any (r.has read? lt) = true ↔
      ∃ a, s.bind read? = some a ∧ r.Contains read? a := by
  rw [Option.any_eq_true]
  exact exists_congr fun a => and_congr_right fun _ => has_iff hlt

end

/-- Ranges of versions are intervals of whole numbers, and ranges of builds intervals of lists of
them. -/
theorem ranges_are_intervals :
    AreIntervals Text.integer? Text.Respelled hasVersion ∧
    AreIntervals build? RespelledBuild hasBuild := by
  constructor
  · exact .of_contains Text.integer?_empty (·.exists_integer?) fun r s => any_has_iff (by simp)
  · exact .of_contains rfl (·.exists_build?) fun r s => any_has_iff (by simp)

theorem respelled_seven : Text.Respelled "+0_7" "٧ " := by
  have zero : Text.digit? '0' = some 0 := by decide
  have seven : Text.digit? '7' = some 7 := by decide
  have arabic : Text.digit? '٧' = some 7 := by decide
  have blank : ∀ c ∈ [' '], Text.isPadding c = true := List.forall_mem_singleton.2 (by decide)
  have left : Text.Written "+0_7" .plus [0, 7] :=
    @Text.Written.intro _ [] [] .plus _ _ rfl (by simp) (by simp) (.apart zero (.last seven))
      (by decide)
  have right : Text.Written "٧ " .bare [7] :=
    @Text.Written.intro _ [] [' '] .bare _ _ rfl (by simp) blank (.last arabic) (by decide)
  exact .intro 1 0 left right (by simp)

theorem sampleRanges_are_intervals :
    Text.Respelled "+0_7" "٧ " ∧
    hasVersion ⟨some "+0_7", some ""⟩ (some "8") = hasVersion ⟨some "٧ ", some ""⟩ (some "8") ∧
    build? "1.2" = some [1, 2] ∧ build? "1.2.0" = some [1, 2, 0] ∧ ([1, 2] : List Int) < [1, 2, 0] ∧
    hasBuild ⟨some "1.2", some "1.2.0"⟩ (some "1.2") = true ∧
    hasBuild ⟨some "1.2", some "1.2.0"⟩ (some "1.2.0") = false := by
  obtain ⟨versions, builds⟩ := ranges_are_intervals
  have lower : build? "1.2" = some [1, 2] := rfl
  have upper : build? "1.2.0" = some [1, 2, 0] := rfl
  have below : ([1, 2] : List Int) < [1, 2, 0] := by decide
  obtain ⟨first, last⟩ := builds.ends lower upper below
  obtain ⟨-, bound, -⟩ := @versions.respelled none (some "") (some "8") _ _ respelled_seven
  exact ⟨respelled_seven, bound, lower, upper, below, first, last⟩

end Allowlist.Range
