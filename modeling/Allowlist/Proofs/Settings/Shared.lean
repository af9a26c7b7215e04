import Allowlist.Settings

namespace Allowlist.Settings

structure Valid (s : Settings) : Prop where
  logFormat : s.logFormat ∈ logFormats
  salt : s.environment = .production → s.salt ≠ ""

theorem error?_eq_none_iff {s : Settings} : s.error? = none ↔ s.Valid := by
  have salt : ¬ (s.environment = .production && s.salt.isEmpty) = true ↔
      (s.environment = .production → s.salt ≠ "") := by simp
  unfold error?
  split
  · rename_i hf
    simp only [reduceCtorEq, false_iff]
    intro h
    simp [h.logFormat] at hf
  · rename_i hf
    have hf : s.logFormat ∈ logFormats := by simpa using hf
    split
    · rename_i hs
      simp only [reduceCtorEq, false_iff]
      intro h
      exact salt.2 h.salt hs
    · rename_i hs
      exact ⟨fun _ => ⟨hf, salt.1 hs⟩, fun _ => rfl⟩

structure Request where
  before : Option Settings
  result : Except Error Settings
  after : Option Settings

def request (kept : Option Settings) (source : Source) : Request where
  before := kept
  result := (shared source kept).1
  after := (shared source kept).2

def requests (kept : Option Settings) : List Source → List Request
  | [] => []
  | source :: sources => request kept source :: requests (request kept source).after sources

/-- Only valid settings are given out, and a request that fails changes nothing. -/
structure Request.Sound (q : Request) : Prop where
  result : ∀ s, q.result = .ok s → s.Valid
  after : ∀ e, q.result = .error e → q.after = q.before

def firstRead? (sources : List Source) : Option Settings :=
  sources.findSome? fun source => (load source).toOption

theorem request_some (s : Settings) (source : Source) :
    request (some s) source = ⟨some s, .ok s, some s⟩ := rfl

theorem request_none (source : Source) :
    (∃ e, load source = .error e ∧ request none source = ⟨none, .error e, none⟩) ∨
    (∃ s e, load source = .ok s ∧ ¬ s.Valid ∧ request none source = ⟨none, .error e, some s⟩) ∨
    ∃ s, load source = .ok s ∧ s.Valid ∧ request none source = ⟨none, .ok s, some s⟩ := by
  cases hl : load source with
  | error e => exact .inl ⟨e, rfl, by simp [request, shared, hl]⟩
  | ok s =>
    cases he : s.error? with
    | none =>
      exact .inr (.inr ⟨s, rfl, error?_eq_none_iff.1 he, by simp [request, shared, hl, he]⟩)
    | some e =>
      refine .inr (.inl ⟨s, e, rfl, ?_, by simp [request, shared, hl, he]⟩)
      intro hv
      rw [error?_eq_none_iff.2 hv] at he
      cases he

theorem sound_of_kept {s : Settings} (hs : s.Valid) (sources : List Source) :
    ∀ q ∈ requests (some s) sources, q.Sound := by
  induction sources with
  | nil => simp [requests]
  | cons source sources ih =>
    rw [requests, request_some, List.forall_mem_cons]
    refine ⟨⟨?_, ?_⟩, ih⟩
    · rintro _ ⟨⟩
      exact hs
    · rintro _ ⟨⟩

/-- Requests are sound just if the first settings that can be read are valid. -/
theorem requests_sound_iff (sources : List Source) :
    (∀ q ∈ requests none sources, q.Sound) ↔ ∀ s, firstRead? sources = some s → s.Valid := by
  induction sources with
  | nil => simp [requests, firstRead?]
  | cons source sources ih =>
    rw [requests, List.forall_mem_cons]
    rcases request_none source with ⟨e, hl, hq⟩ | ⟨s, e, hl, hs, hq⟩ | ⟨s, hl, hs, hq⟩
    · -- Nothing could be read, and the next request is as this one.
      have read : firstRead? (source :: sources) = firstRead? sources := by
        simp [firstRead?, hl, Except.toOption]
      rw [hq, read, ih]
      refine ⟨fun h => h.2, fun h => ⟨⟨?_, ?_⟩, h⟩⟩
      · rintro _ ⟨⟩
      · rintro _ ⟨⟩
        rfl
    · -- What is not valid was kept all the same.
      have read : firstRead? (source :: sources) = some s := by
        simp [firstRead?, hl, Except.toOption]
      rw [hq, read]
      constructor
      · intro h
        cases h.1.after e rfl
      · intro h
        exact absurd (h s rfl) hs
    · have read : firstRead? (source :: sources) = some s := by
        simp [firstRead?, hl, Except.toOption]
      rw [hq, read]
      constructor
      · rintro - _ ⟨⟩
        exact hs
      · intro _
        refine ⟨⟨?_, ?_⟩, sound_of_kept hs sources⟩
        · rintro _ ⟨⟩
          exact hs
        · rintro _ ⟨⟩

/-- The format that the first source asks for is not known. The first request fails; the second one,
for which nothing would be wrong, is given what the first one kept. -/
theorem unsound_requests : ¬ ∀ q ∈ requests none [[("LOG_FORMAT", "xml")], []], q.Sound := by
  intro h
  have h := h (request (request none [("LOG_FORMAT", "xml")]).after []) (by simp [requests])
  have hv := (h.result _ rfl).logFormat
  revert hv
  decide

end Allowlist.Settings
