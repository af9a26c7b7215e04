import Allowlist.Log.Redact
import Allowlist.Proofs.Except

/-!
How far redaction reaches. It goes into records inside of records and into records that are
elements of a list, so a secret there does not show; a list in a list and a tuple are kept with all
they hold.
-/

namespace Allowlist.Log

/-- Another value that the log is not to tell from the first: any under a key that is no text or the
name of a secret; under the name of a payload one of the same shape. -/
inductive Hidden : Key → Value → Value → Prop
  | unnamed {k v w} : k.isText = false → v ≠ w → Hidden k v w
  | secret {s v w} : isSecretName s = true → v ≠ w → Hidden (.text s) v w
  | payload {s v w} : s ∈ payloadKeys → v ≠ .null → w ≠ .null → shape v = shape w → v ≠ w →
      Hidden (.text s) v w

def IsOpen (k : Key) : Prop := keyClass k = .opened

/-- Values that differ under one key only, by what the log is not to tell, at any depth of records,
lists and tuples. -/
inductive DifferInside : Value → Value → Prop
  | here {before after : Entries} {k v w} : Hidden k v w →
      DifferInside (.map (before ++ (k, v) :: after)) (.map (before ++ (k, w) :: after))
  | entry {before after : Entries} {k v w} : IsOpen k → DifferInside v w →
      DifferInside (.map (before ++ (k, v) :: after)) (.map (before ++ (k, w) :: after))
  | list {before after : List Value} {v w} : DifferInside v w →
      DifferInside (.list (before ++ v :: after)) (.list (before ++ w :: after))
  | tuple {before after : List Value} {v w} : DifferInside v w →
      DifferInside (.tuple (before ++ v :: after)) (.tuple (before ++ w :: after))

/-- Values that differ in the same way where only records and lists of records are around it. -/
inductive Reached : Value → Value → Prop
  | here {before after : Entries} {k v w} : Hidden k v w →
      Reached (.map (before ++ (k, v) :: after)) (.map (before ++ (k, w) :: after))
  | entry {before after : Entries} {k v w} : IsOpen k → Reached v w →
      Reached (.map (before ++ (k, v) :: after)) (.map (before ++ (k, w) :: after))
  | element {before after : List Value} {es fs} : Reached (.map es) (.map fs) →
      Reached (.list (before ++ .map es :: after)) (.list (before ++ .map fs :: after))

theorem Hidden.ne {k : Key} {v w : Value} (h : Hidden k v w) : v ≠ w := by
  cases h with
  | unnamed _ h => exact h
  | secret _ h => exact h
  | payload _ _ _ _ h => exact h

theorem DifferInside.ne {v w : Value} (h : DifferInside v w) : v ≠ w := by
  induction h with
  | here h => simpa using h.ne
  | entry _ _ ih => simpa using ih
  | list _ ih => simpa using ih
  | tuple _ ih => simpa using ih

theorem keyClass_of_isSecretName {s : String} (h : isSecretName s = true) :
    keyClass (.text s) = .secret := if_pos h

theorem keyClass_of_not_isText {k : Key} (h : k.isText = false) : keyClass k = .secret := by
  cases k with
  | null => rfl
  | leaf a =>
    cases a with
    | text s => cases h
    | _ => rfl
  | tuple ks => rfl

theorem cover?_secret {k : Key} (h : keyClass k = .secret) (v : Value) :
    cover? k v = some (.ok hidden) := by
  simp [cover?, h]

theorem cover?_open {k : Key} (h : IsOpen k) (v : Value) : cover? k v = none := by
  unfold cover?
  rw [h]

theorem cover?_payload {k : Key} (h : keyClass k = .payload) {v : Value} (hv : v ≠ .null) :
    cover? k v = some (.ok (.text (shape v))) := by
  cases v with
  | null => exact absurd rfl hv
  | _ => simp [cover?, h]

theorem Hidden.cover?_eq {k : Key} {v w : Value} (h : Hidden k v w) :
    ∃ x, cover? k v = some (.ok x) ∧ cover? k w = some (.ok x) := by
  cases h with
  | unnamed hk => exact ⟨_, cover?_secret (keyClass_of_not_isText hk) v,
      cover?_secret (keyClass_of_not_isText hk) w⟩
  | secret hs => exact ⟨_, cover?_secret (keyClass_of_isSecretName hs) v,
      cover?_secret (keyClass_of_isSecretName hs) w⟩
  | @payload s _ _ hs hv hw hshape =>
    by_cases hsec : isSecretName s = true
    · exact ⟨_, cover?_secret (keyClass_of_isSecretName hsec) v,
        cover?_secret (keyClass_of_isSecretName hsec) w⟩
    · have hk : keyClass (.text s) = .payload := by simp [keyClass, hsec, hs]
      exact ⟨_, cover?_payload hk hv, hshape ▸ cover?_payload hk hw⟩

def redactEntry (e : Key × Value) : Except Failure (Key × Value) :=
  ((cover? e.1 e.2).getD (redactInside e.2)).map (e.1, ·)

theorem redact_eq_mapM (es : Entries) : redact es = es.mapM redactEntry := by
  induction es with
  | nil => rfl
  | cons e es ih =>
    rw [List.mapM_cons, ← ih, redact, redactEntry]
    cases (cover? e.1 e.2).getD (redactInside e.2) <;> rfl

theorem Hidden.exists_redactEntry {k : Key} {v w : Value} (h : Hidden k v w) :
    ∃ e, redactEntry (k, v) = .ok e ∧ redactEntry (k, w) = .ok e := by
  obtain ⟨x, hv, hw⟩ := h.cover?_eq
  exact ⟨(k, x), by rw [redactEntry, hv]; rfl, by rw [redactEntry, hw]; rfl⟩

theorem redactEntry_open {k : Key} (h : IsOpen k) (v : Value) :
    redactEntry (k, v) = (redactInside v).map (k, ·) := by
  rw [redactEntry, cover?_open h]
  rfl

def redactElement : Value → Except Failure Value
  | .map es => (redact es).map .map
  | v => .ok v

theorem redactElements_eq_mapM (vs : List Value) :
    redactElements vs = vs.mapM redactElement := by
  induction vs with
  | nil => rfl
  | cons v vs ih =>
    rw [List.mapM_cons, ← ih]
    cases v with
    | map es => rw [redactElements, redactElement]; cases redact es <;> rfl
    | _ => rfl

theorem redactInside_map (es : Entries) :
    redactInside (.map es) = (es.mapM redactEntry).map .map := by
  rw [redactInside, redact_eq_mapM]

theorem redactInside_list (vs : List Value) :
    redactInside (.list vs) = (vs.mapM redactElement).map .list := by
  rw [redactInside, redactElements_eq_mapM]

theorem Reached.redactInside_eq {v w : Value} (h : Reached v w) :
    redactInside v = redactInside w := by
  induction h with
  | here h =>
    obtain ⟨e, hv, hw⟩ := h.exists_redactEntry
    rw [redactInside_map, redactInside_map, mapM_replace (hv.trans hw.symm)]
  | entry hk _ ih =>
    rw [redactInside_map, redactInside_map, mapM_replace]
    rw [redactEntry_open hk, redactEntry_open hk, ih]
  | @element before after es fs _ ih =>
    have element : redactElement (.map es) = redactElement (.map fs) := ih
    rw [redactInside_list, redactInside_list, mapM_replace element]

theorem DifferInside.reached {v w x : Value} (h : DifferInside v w)
    (hv : redactInside v = .ok x) (hw : redactInside w = .ok x) : Reached v w := by
  induction h generalizing x with
  | here h => exact .here h
  | entry hk _ ih =>
    rw [redactInside_map, exceptMap_ok] at hv hw
    obtain ⟨es, hes, rfl⟩ := hv
    obtain ⟨fs, hfs, heq⟩ := hw
    cases heq
    obtain ⟨e, hv, hw⟩ := mapM_replace_ok hes hfs
    rw [redactEntry_open hk, exceptMap_ok] at hv hw
    obtain ⟨y, hv, rfl⟩ := hv
    obtain ⟨z, hw, heq⟩ := hw
    cases heq
    exact .entry hk (ih hv hw)
  | @list before after v w h ih =>
    rw [redactInside_list, exceptMap_ok] at hv hw
    obtain ⟨vs, hvs, rfl⟩ := hv
    obtain ⟨ws, hws, heq⟩ := hw
    cases heq
    obtain ⟨y, hv, hw⟩ := mapM_replace_ok hvs hws
    cases h with
    | here h => exact .element (.here h)
    | entry hk h => exact .element (ih hv hw)
    | list h => exact absurd (Except.ok.inj (hv.trans hw.symm)) h.list.ne
    | tuple h => exact absurd (Except.ok.inj (hv.trans hw.symm)) h.tuple.ne
  | tuple h => exact absurd (Except.ok.inj (hv.trans hw.symm)) h.tuple.ne

theorem redactElement_error_iff {v w : Value} (h : DifferInside v w)
    (ih : ∀ e, redactInside v = .error e ↔ redactInside w = .error e) (e : Failure) :
    redactElement v = .error e ↔ redactElement w = .error e := by
  cases h with
  | here => exact ih e
  | entry => exact ih e
  | list => exact iff_of_false (by simp [redactElement]) (by simp [redactElement])
  | tuple => exact iff_of_false (by simp [redactElement]) (by simp [redactElement])

theorem DifferInside.error_iff {v w : Value} (h : DifferInside v w) (e : Failure) :
    redactInside v = .error e ↔ redactInside w = .error e := by
  induction h generalizing e with
  | here h =>
    obtain ⟨x, hv, hw⟩ := h.exists_redactEntry
    rw [redactInside_map, redactInside_map, mapM_replace (hv.trans hw.symm)]
  | entry hk _ ih =>
    rw [redactInside_map, redactInside_map, exceptMap_error, exceptMap_error]
    apply mapM_replace_error_iff
    intro e
    rw [redactEntry_open hk, redactEntry_open hk, exceptMap_error, exceptMap_error, ih]
  | list h ih =>
    rw [redactInside_list, redactInside_list, exceptMap_error, exceptMap_error]
    exact mapM_replace_error_iff (redactElement_error_iff h ih)
  | tuple => exact iff_of_false (by simp [redactInside]) (by simp [redactInside])

/-- A secret does not show just if redaction reaches it, or if there is nothing to show. -/
theorem redact_eq_iff_reached {es fs : Entries} (h : DifferInside (.map es) (.map fs)) :
    redact es = redact fs ↔ Reached (.map es) (.map fs) ∨ ∃ e, redact es = .error e := by
  have inside : ∀ gs, redactInside (.map gs) = (redact gs).map .map := fun _ => rfl
  constructor
  · intro heq
    cases hes : redact es with
    | error e => exact .inr ⟨e, rfl⟩
    | ok gs =>
      left
      refine h.reached (x := .map gs) ?_ ?_
      · rw [inside, hes]
        rfl
      · rw [inside, ← heq, hes]
        rfl
  · rintro (hr | ⟨e, he⟩)
    · exact (exceptMap_inj fun _ _ => Value.map.inj).1 hr.redactInside_eq
    · have hf := h.error_iff e
      rw [inside, inside, exceptMap_error, exceptMap_error] at hf
      rw [he, hf.1 he]

def sampleRecord (n : Int) : Entries :=
  [(.text "request", .map [(.text "items", .list [.map [(.text "token", .leaf (.int n))]])])]

theorem sampleRecord_shows_nothing :
    DifferInside (.map (sampleRecord 1)) (.map (sampleRecord 2)) ∧
      redact (sampleRecord 1) = redact (sampleRecord 2) := by
  have token : Hidden (.text "token") (.leaf (.int 1)) (.leaf (.int 2)) :=
    .secret (by decide) (by simp)
  have request : IsOpen (.text "request") := rfl
  have items : IsOpen (.text "items") := rfl
  have differ : DifferInside (.map (sampleRecord 1)) (.map (sampleRecord 2)) :=
    @DifferInside.entry [] [] _ _ _ request (@DifferInside.entry [] [] _ _ _ items
      (@DifferInside.list [] [] _ _ (@DifferInside.here [] [] _ _ _ token)))
  refine ⟨differ, (redact_eq_iff_reached differ).2 (.inl ?_)⟩
  exact @Reached.entry [] [] _ _ _ request (@Reached.entry [] [] _ _ _ items
    (@Reached.element [] [] _ _ (@Reached.here [] [] _ _ _ token)))

def nestedRecord (n : Int) : Entries :=
  [(.text "rows", .list [.list [.map [(.text "password", .leaf (.int n))]]])]

theorem nestedRecord_shows :
    ¬ ∀ es fs, DifferInside (.map es) (.map fs) → redact es = redact fs := by
  intro h
  have password : Hidden (.text "password") (.leaf (.int 1)) (.leaf (.int 2)) :=
    .secret (by decide) (by simp)
  have rows : IsOpen (.text "rows") := rfl
  have same : redact (nestedRecord 1) = redact (nestedRecord 2) :=
    h _ _ (@DifferInside.entry [] [] _ _ _ rows (@DifferInside.list [] [] _ _
      (@DifferInside.list [] [] _ _ (@DifferInside.here [] [] _ _ _ password))))
  have kept : ∀ n, redact (nestedRecord n) = .ok (nestedRecord n) := fun _ => rfl
  rw [kept, kept] at same
  simp [nestedRecord] at same

end Allowlist.Log
