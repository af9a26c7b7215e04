import Allowlist.Registry
import Mathlib.Data.Int.Order.Basic
import Mathlib.Data.List.Lex
import Mathlib.Order.Lattice

namespace Allowlist

namespace Range

theorem bound_eq_at {α : Type} {read? : String → Option α} {s : String} {a : α} (hs : s ≠ "")
    (h : read? s = some a) : bound read? (some s) = .at a := by
  simp [bound, hs, h]

section

variable {α : Type} [LE α] [LT α] {read? : String → Option α} {r : Range} {rs ss : List Range}
  {b s : String}

structure Contains (read? : String → Option α) (r : Range) (a : α) : Prop where
  lower : bound read? r.lower ≠ .unreadable
  upper : bound read? r.upper ≠ .unreadable
  le : ∀ n, bound read? r.lower = .at n → n ≤ a
  lt : ∀ n, bound read? r.upper = .at n → a < n

def Among (read? : String → Option α) (rs : List Range) (s : String) : Prop :=
  rs = [] ∨ ∃ n, read? s = some n ∧ ∃ r ∈ rs, r.Contains read? n

structure SameNumbers (read? : String → Option α) (rs ss : List Range) : Prop where
  nil_iff : rs = [] ↔ ss = []
  contains_iff : ∀ n, (∃ r ∈ rs, r.Contains read? n) ↔ ∃ r ∈ ss, r.Contains read? n

/-- A bound that can be read and lies between the ends of a range, of which each can be read or is
open. -/
structure IsCut (read? : String → Option α) (r : Range) (b : String) : Prop where
  lower : bound read? r.lower ≠ .unreadable
  upper : bound read? r.upper ≠ .unreadable
  between : ∃ m, bound read? (some b) = .at m ∧ (∀ a, bound read? r.lower = .at a → a ≤ m) ∧
    ∀ c, bound read? r.upper = .at c → m ≤ c

def cut (r : Range) (b : String) : List Range := [⟨r.lower, some b⟩, ⟨some b, r.upper⟩]

theorem SameNumbers.of_mem (h : ∀ r, r ∈ rs ↔ r ∈ ss) : SameNumbers read? rs ss where
  nil_iff := by simp only [List.eq_nil_iff_forall_not_mem, h]
  contains_iff n := by simp only [h]

theorem SameNumbers.among_iff (h : SameNumbers read? rs ss) : Among read? rs s ↔ Among read? ss s :=
  or_congr h.nil_iff (exists_congr fun n => and_congr_right fun _ => h.contains_iff n)

theorem Among.of_subset (h : Among read? rs s) (hne : rs ≠ []) (hs : rs ⊆ ss) :
    Among read? ss s := by
  obtain ⟨n, hn, r, hr, hc⟩ := h.resolve_left hne
  exact .inr ⟨n, hn, r, hs hr, hc⟩

end

section

variable {α : Type} [LinearOrder α] {read? : String → Option α} {lt : α → α → Bool} {r : Range}
  {b : String}

theorem isAbove_iff (hlt : ∀ a b, lt a b = true ↔ a < b) {a : α} {b : Bound α} :
    isAbove lt a b = true ↔ b ≠ .unreadable ∧ ∀ n, b = .at n → n ≤ a := by
  cases b with
  | opened => simp [isAbove]
  | «at» n => simp [isAbove, ← Bool.not_eq_true, hlt]
  | unreadable => simp [isAbove]

theorem isBelow_iff (hlt : ∀ a b, lt a b = true ↔ a < b) {a : α} {b : Bound α} :
    isBelow lt a b = true ↔ b ≠ .unreadable ∧ ∀ n, b = .at n → a < n := by
  cases b with
  | opened => simp [isBelow]
  | «at» n => simp [isBelow, hlt]
  | unreadable => simp [isBelow]

theorem has_iff (hlt : ∀ a b, lt a b = true ↔ a < b) {a : α} :
    r.has read? lt a = true ↔ r.Contains read? a := by
  rw [has, Bool.and_eq_true, isAbove_iff hlt, isBelow_iff hlt]
  constructor
  · rintro ⟨⟨lower, le⟩, upper, lt⟩
    exact ⟨lower, upper, le, lt⟩
  · intro h
    exact ⟨⟨h.lower, h.le⟩, h.upper, h.lt⟩

theorem IsCut.contains_iff (h : r.IsCut read? b) (a : α) :
    r.Contains read? a ↔ ∃ s ∈ r.cut b, s.Contains read? a := by
  obtain ⟨m, hm, hlower, hupper⟩ := h.between
  have readable : bound read? (some b) ≠ .unreadable := by simp [hm]
  have only : ∀ n, bound read? (some b) = .at n → m = n := by simp [hm]
  simp only [cut, List.mem_cons, List.not_mem_nil, or_false, exists_eq_or_imp, exists_eq_left]
  constructor
  · intro ha
    cases lt_or_ge a m with
    | inl ham => exact .inl ⟨ha.lower, readable, ha.le, fun n hn => only n hn ▸ ham⟩
    | inr hma => exact .inr ⟨readable, ha.upper, fun n hn => only n hn ▸ hma, ha.lt⟩
  · rintro (ha | ha)
    · exact ⟨h.lower, h.upper, ha.le, fun c hc => (ha.lt m hm).trans_le (hupper c hc)⟩
    · exact ⟨h.lower, h.upper, fun c hc => (hlower c hc).trans (ha.le m hm), ha.lt⟩

theorem IsCut.sameNumbers (h : r.IsCut read? b) (rs ss : List Range) :
    SameNumbers read? (rs ++ r :: ss) (rs ++ r.cut b ++ ss) where
  nil_iff := by simp [cut]
  contains_iff n := by
    simp only [List.mem_append, List.mem_cons, or_and_right, exists_or, exists_eq_left,
      h.contains_iff n, or_assoc]

end

end Range

namespace Group

variable {g g' : Group} {version build : String}

theorem isAmong_iff {α : Type} [LinearOrder α] {read? : String → Option α} {lt : α → α → Bool}
    (hlt : ∀ a b, lt a b = true ↔ a < b) {rs : List Range} {s : String} :
    isAmong (fun r => (read? s).any (r.has read? lt)) rs = true ↔ Range.Among read? rs s := by
  rw [isAmong, Bool.or_eq_true, List.isEmpty_iff, List.any_eq_true]
  cases h : read? s with
  | none => simp [Range.Among, h]
  | some n => simp [Range.Among, h, Range.has_iff hlt]

theorem accepts_iff : g.accepts version build = true ↔
    Range.Among build? g.builds build ∧ Range.Among Text.integer? g.versions version := by
  rw [accepts, admits, Bool.and_eq_true]
  exact and_congr (isAmong_iff (by simp)) (isAmong_iff (by simp))

theorem accepts_eq_of_same (hv : Range.SameNumbers Text.integer? g.versions g'.versions)
    (hb : Range.SameNumbers build? g.builds g'.builds) :
    g'.accepts version build = g.accepts version build := by
  rw [Bool.eq_iff_iff, accepts_iff, accepts_iff, hv.among_iff, hb.among_iff]

/-- A group accepts what lies in its ranges, so its answer depends on nothing but the numbers in
them, and on the version and the build apart. -/
theorem accepts_by_numbers (g : Group) (version build : String) :
    (g.accepts version build = true ↔
      Range.Among build? g.builds build ∧ Range.Among Text.integer? g.versions version) ∧
    (∀ g' : Group, Range.SameNumbers Text.integer? g.versions g'.versions →
      Range.SameNumbers build? g.builds g'.builds →
      g'.accepts version build = g.accepts version build) ∧
    (∀ g' : Group, (∀ r, r ∈ g.versions ↔ r ∈ g'.versions) → (∀ r, r ∈ g.builds ↔ r ∈ g'.builds) →
      g'.accepts version build = g.accepts version build) ∧
    (∀ rs r b ss, g.versions = rs ++ r :: ss → r.IsCut Text.integer? b →
      { g with versions := rs ++ r.cut b ++ ss }.accepts version build =
        g.accepts version build) ∧
    (∀ rs r b ss, g.builds = rs ++ r :: ss → r.IsCut build? b →
      { g with builds := rs ++ r.cut b ++ ss }.accepts version build =
        g.accepts version build) ∧
    (∀ rs, g.versions ≠ [] → g.versions ⊆ rs → g.accepts version build = true →
      { g with versions := rs }.accepts version build = true) ∧
    (∀ rs, g.builds ≠ [] → g.builds ⊆ rs → g.accepts version build = true →
      { g with builds := rs }.accepts version build = true) ∧
    ∀ version' build', g.accepts version build = true → g.accepts version' build' = true →
      g.accepts version build' = true := by
  refine ⟨accepts_iff, ?_, ?_, ?_, ?_, ?_, ?_, ?_⟩
  · intro g' hv hb
    exact accepts_eq_of_same hv hb
  · intro g' hv hb
    exact accepts_eq_of_same (.of_mem hv) (.of_mem hb)
  · intro rs r b ss hg hr
    apply accepts_eq_of_same
    · rw [hg]
      exact hr.sameNumbers rs ss
    · exact .of_mem fun _ => Iff.rfl
  · intro rs r b ss hg hr
    apply accepts_eq_of_same
    · exact .of_mem fun _ => Iff.rfl
    · rw [hg]
      exact hr.sameNumbers rs ss
  · intro rs hne hs h
    obtain ⟨hb, hv⟩ := accepts_iff.1 h
    exact accepts_iff.2 ⟨hb, hv.of_subset hne hs⟩
  · intro rs hne hs h
    obtain ⟨hb, hv⟩ := accepts_iff.1 h
    exact accepts_iff.2 ⟨hb.of_subset hne hs, hv⟩
  · intro version' build' h h'
    exact accepts_iff.2 ⟨(accepts_iff.1 h').1, (accepts_iff.1 h).2⟩

def rangedGroup : Group where
  rules := none
  versions := [⟨some "2", some "8"⟩, ⟨some "9", none⟩]
  builds := [⟨some "", some "3.1"⟩]

theorem isCut_version : (⟨some "2", some "8"⟩ : Range).IsCut Text.integer? "5" := by
  have lower : Range.bound Text.integer? (some "2") = .at 2 := Range.bound_eq_at (by simp) rfl
  have middle : Range.bound Text.integer? (some "5") = .at 5 := Range.bound_eq_at (by simp) rfl
  have upper : Range.bound Text.integer? (some "8") = .at 8 := Range.bound_eq_at (by simp) rfl
  exact ⟨by simp [lower], by simp [upper], 5, middle, by simp [lower], by simp [upper]⟩

theorem isCut_build : (⟨some "", some "3.1"⟩ : Range).IsCut build? "3" := by
  have lower : Range.bound build? (some "") = .opened := rfl
  have middle : Range.bound build? (some "3") = .at [3] := Range.bound_eq_at (by simp) rfl
  have upper : Range.bound build? (some "3.1") = .at [3, 1] := Range.bound_eq_at (by simp) rfl
  have below : ([3] : List Int) ≤ [3, 1] := le_of_lt (by decide)
  exact ⟨by simp [lower], by simp [upper], [3], middle, by simp [lower], by simp [upper, below]⟩

theorem rangedGroup_accepts : rangedGroup.accepts "7" "3" = true ∧
    { rangedGroup with
      versions := [⟨some "2", some "5"⟩, ⟨some "5", some "8"⟩, ⟨some "9", none⟩]
      builds := [⟨some "", some "3"⟩, ⟨some "3", some "3.1"⟩] }.accepts "7" "3" = true ∧
    { rangedGroup with
      versions := [⟨some "9", none⟩, ⟨some "2", some "8"⟩, ⟨some "9", none⟩] }.accepts "7" "3" =
        true ∧
    { rangedGroup with
      versions := [⟨some "2", some "5"⟩, ⟨some "5", some "8"⟩, ⟨some "9", none⟩] }.accepts "7" "3" =
        true ∧
    { rangedGroup with
      builds := [⟨some "", some "3"⟩, ⟨some "3", some "3.1"⟩] }.accepts "7" "3" = true ∧
    { rangedGroup with
      versions := [⟨some "x", none⟩, ⟨some "2", some "8"⟩, ⟨some "9", none⟩] }.accepts "7" "3" =
        true ∧
    { rangedGroup with
      builds := [⟨some "", some "3.1"⟩, ⟨some "4", some "4"⟩] }.accepts "7" "3" = true ∧
    rangedGroup.accepts "7" "0.1" = true := by
  obtain ⟨-, same, listed, cutVersion, cutBuild, moreVersions, moreBuilds, apart⟩ :=
    accepts_by_numbers rangedGroup "7" "3"
  have accepted : rangedGroup.accepts "7" "3" = true := by decide
  refine ⟨accepted, ?_, ?_, ?_, ?_, ?_, ?_, ?_⟩
  · rw [← accepted]
    exact same _ (isCut_version.sameNumbers [] [⟨some "9", none⟩])
      (isCut_build.sameNumbers [] [])
  · rw [← accepted]
    exact listed _ (by simp [rangedGroup, or_comm]) (fun _ => Iff.rfl)
  · rw [← accepted]
    exact cutVersion [] _ "5" [⟨some "9", none⟩] rfl isCut_version
  · rw [← accepted]
    exact cutBuild [] _ "3" [] rfl isCut_build
  · exact moreVersions _ (by simp [rangedGroup]) (List.subset_cons_self _ _) accepted
  · exact moreBuilds _ (by simp [rangedGroup]) (List.subset_append_left _ [_]) accepted
  · exact apart "12" "0.1" accepted (by decide)

end Group

end Allowlist
