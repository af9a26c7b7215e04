import Allowlist.Proofs.RuleSet.Clean
import Allowlist.Proofs.RuleSet.Idempotence
import Allowlist.Proofs.RuleSet.Static
import Allowlist.Proofs.Validator.Results

namespace Allowlist

def Key.IsCleanName (k : Key) : Prop := ∃ s, k = .text s ∧ Escape.name s = s

theorem Key.IsCleanName.isText {k : Key} (h : k.IsCleanName) : k.isText = true := by
  obtain ⟨s, rfl, _⟩ := h
  rfl

theorem Key.IsCleanName.escape {k : Key} (h : k.IsCleanName) : k.escape = k := by
  obtain ⟨s, rfl, hs⟩ := h
  rw [Key.escape, hs]

theorem Key.isCleanName_mark (u : Verdict) : (Key.text u.mark).IsCleanName :=
  ⟨u.mark, rfl, Escape.name_of_isMark (isMark_mark u)⟩

structure Event.Clean (e : Event) : Prop where
  envelope : e.envelope.escape = e.envelope
  id : Escape.value e.id = e.id
  name : ∀ f ∈ e.data.getD [], f.1.IsCleanName
  value : ∀ f ∈ e.data.getD [], f.2.Clean

namespace Entries

theorem eq_of_escape? {es data : Entries} (hes : ∀ f ∈ es, f.1.IsCleanName)
    (h : escape? (ofList es) = some data) :
    ofList data = data ∧ ∀ d ∈ data, ∃ f ∈ es, d = (f.1, f.2.escape) := by
  have named : Named es := fun f hf => (hes f hf).isText
  rw [escape?_of_named named.ofList] at h
  cases h
  refine ⟨ofList_ofList _, fun d hd => ?_⟩
  have named' : Named ((ofList es).map Value.escapeEntry) := by
    intro d hd
    obtain ⟨f, hf, rfl⟩ := List.mem_map.1 hd
    have hk := hes f (mem_of_mem_ofList named hf)
    rw [Value.escapeEntry, hk.escape]
    exact hk.isText
  obtain ⟨f, hf, rfl⟩ := List.mem_map.1 (mem_of_mem_ofList named' hd)
  have hf := mem_of_mem_ofList named hf
  exact ⟨f, hf, by rw [Value.escapeEntry, (hes f hf).escape]⟩

theorem escape?_again {es data : Entries} (hes : ∀ f ∈ es, f.1.IsCleanName)
    (h : escape? (ofList es) = some data) : escape? (ofList data) = some data := by
  have named : Named es := fun f hf => (hes f hf).isText
  rw [(eq_of_escape? hes h).1]
  exact escape?_escape? named.ofList h

end Entries

namespace Validator

variable {v : Validator} {e r : Event} {g : String} {ctx ctx' : Context}

theorem escape_recordedId {id : String} (h : Escape.value id = id) (verdict : Verdict) :
    Escape.value (recordedId id verdict) = recordedId id verdict := by
  unfold recordedId
  split
  · exact h
  · exact Escape.value_mark verdict

theorem idVerdict_of_mark {reg : Registry} {verdict : Verdict} (hv : v.registry = some reg)
    (h : v.idVerdict g ctx = .ok verdict) (hne : verdict ≠ .accepted)
    (hs : ctx'.eventId ∉ v.systemEvents) (hid : ctx'.eventId = verdict.mark) :
    v.idVerdict g ctx' = .ok .accepted ∨ v.idVerdict g ctx' = .ok verdict := by
  have hctx : ctx.eventId ∉ v.systemEvents := by
    intro hmem
    rw [idVerdict_of_mem hv hmem] at h
    cases h
    exact hne rfl
  rw [idVerdict_of_not_mem hv hctx] at h
  rw [idVerdict_of_not_mem hv hs]
  cases hr : v.rules? g with
  | none =>
    rw [hr] at h
    exact .inr h
  | some rules =>
    rw [hr] at h
    by_cases hc : rules.eventIdRules = []
    · rw [RuleSet.checkEventIdIn_undeclared hc] at h ⊢
      exact .inr h
    · have hm : isMark ctx'.eventId = true := hid ▸ isMark_mark verdict
      rw [RuleSet.checkEventIdIn_mark hc hm]
      exact .inl rfl

theorem idVerdict_again {verdict : Verdict} (hs : ∀ rules, v.rules? g = some rules → rules.Static)
    (h : v.idVerdict g ctx = .ok verdict)
    (hid : ctx'.eventId = recordedId ctx.eventId verdict) :
    ∃ u, v.idVerdict g ctx' = .ok u ∧ recordedId ctx'.eventId u = ctx'.eventId := by
  cases hv : v.registry with
  | none =>
    rw [idVerdict_unreachable hv] at h
    cases h
    exact ⟨_, idVerdict_unreachable hv, hid.symm⟩
  | some reg =>
    by_cases hsys : ctx'.eventId ∈ v.systemEvents
    · exact ⟨_, idVerdict_of_mem hv hsys, rfl⟩
    by_cases hacc : verdict = .accepted
    · subst hacc
      have same : ctx.eventId = ctx'.eventId := hid.symm
      rw [idVerdict_of_not_mem hv (same ▸ hsys), RuleSet.Static.checkEventIdIn hs same,
        ← idVerdict_of_not_mem hv hsys] at h
      exact ⟨_, h, rfl⟩
    · rw [recordedId, if_neg hacc] at hid
      cases idVerdict_of_mark hv h hacc hsys hid with
      | inl h => exact ⟨_, h, rfl⟩
      | inr h => exact ⟨_, h, by rw [recordedId, if_neg hacc, hid]⟩

theorem isCleanName_of_checkEntries {es : Entries} (hn : ∀ f ∈ ctx.data.getD [], f.1.IsCleanName)
    (h : v.checkEntries g ctx = .ok es) : ∀ f ∈ es, f.1.IsCleanName := by
  intro f hf
  cases hr : v.rules? g with
  | none =>
    obtain ⟨u, hu⟩ := checkEntries_marked hr
    rw [hu] at h
    cases h
    obtain ⟨_, _, rfl⟩ := List.mem_map.1 hf
    exact Key.isCleanName_mark u
  | some rules =>
    rw [checkEntries_of_named hr fun f hf => (hn f hf).isText] at h
    obtain ⟨f₀, hf₀, hof⟩ := h.exists_left hf
    obtain ⟨s, hs, hclean⟩ := hn f₀ hf₀
    obtain ⟨k, g, hk, hg, rfl⟩ := hof.of_isText (hn f₀ hf₀).isText
    rw [hk] at hs
    cases hs
    exact ⟨_, rfl, hg.escape_name hclean⟩

theorem checkEntries_again {es : Entries} (hn : ∀ f ∈ ctx.data.getD [], f.1.IsCleanName)
    (hc : ∀ f ∈ ctx.data.getD [], f.2.Clean)
    (hr : ∀ rules, v.rules? g = some rules → rules.AvoidsUndefined ∧ rules.Static)
    (h : v.checkEntries g ctx = .ok es)
    (hd : ∀ d ∈ ctx'.data.getD [], ∃ f ∈ es, d = (f.1, f.2.escape)) :
    v.checkEntries g ctx' = .ok (ctx'.data.getD []) := by
  have clean := isCleanName_of_checkEntries hn h
  cases hrules : v.rules? g with
  | none =>
    obtain ⟨u, hu⟩ := checkEntries_marked hrules
    rw [hu] at h ⊢
    cases h
    congr 1
    refine (List.map_congr_left fun d hmem => ?_).trans (List.map_id _)
    obtain ⟨f, hf, rfl⟩ := hd d hmem
    obtain ⟨_, _, rfl⟩ := List.mem_map.1 hf
    rw [markedEntry, Value.escape_mark]
    rfl
  | some rules =>
    obtain ⟨avoids, static⟩ := hr rules hrules
    have named : Entries.Named (ctx'.data.getD []) := by
      intro d hmem
      obtain ⟨f, hf, rfl⟩ := hd d hmem
      exact (clean f hf).isText
    rw [checkEntries_of_named hrules named, List.forall₂_same]
    intro d hmem
    obtain ⟨f, hf, rfl⟩ := hd d hmem
    rw [checkEntries_of_named hrules fun f hf => (hn f hf).isText] at h
    obtain ⟨f₀, hf₀, hof⟩ := h.exists_left hf
    obtain ⟨_, f, _, hx, rfl⟩ := hof.of_isText (hn f₀ hf₀).isText
    have again := (avoids.checks_again hx).escape rfl (hx.clean (hc f₀ hf₀))
    exact .named (f := ⟨f.name, f.value.escape⟩) (again.congr static.alike)

/-- A recorded event is recorded again as it is. -/
theorem validate_idempotent (hc : e.Clean)
    (hr : ∀ rules, v.rules? e.envelope.groupId = some rules →
      rules.AvoidsUndefined ∧ rules.Static)
    (h : (v.validate e).result = .ok (some r)) : (v.validate r).result = .ok (some r) := by
  obtain ⟨hn, verdict, es, data, hid, hes, hdata, hrec⟩ := validate_ok_some.1 h
  have envelope : r.envelope = e.envelope := by rw [hrec, recorded, hc.envelope]
  have id : r.id = recordedId e.id verdict := by rw [hrec, recorded, escape_recordedId hc.id]
  have hdata' : r.data = some data := by rw [hrec, recorded]
  have names := isCleanName_of_checkEntries hc.name hes
  obtain ⟨u, hu, hid'⟩ : ∃ u, v.idVerdict e.envelope.groupId r.context = .ok u ∧
      recordedId r.id u = r.id :=
    idVerdict_again (fun rules hrules => (hr rules hrules).2) hid id
  have fields : ∀ d ∈ r.context.data.getD [], ∃ f ∈ es, d = (f.1, f.2.escape) := by
    rw [Event.context, hdata']
    exact (Entries.eq_of_escape? names hdata).2
  have hes' : v.checkEntries e.envelope.groupId r.context = .ok data := by
    rw [checkEntries_again hc.name hc.value hr hes fields, Event.context, hdata']
    rfl
  rw [validate_ok_some, envelope]
  refine ⟨hn, u, data, data, hu, hes', Entries.escape?_again names hdata, ?_⟩
  rw [recorded, hid', envelope, hc.envelope, id, escape_recordedId hc.id, ← id, ← envelope,
    ← hdata']

theorem clean_samplePayload : samplePayload.Clean := by
  have nothing : Value.null.Clean := .null
  have number : (Value.leaf (.int 5)).Clean := .leaf rfl
  have text : ∀ s, Escape.value s = s → (Value.text s).Clean := fun s hs =>
    .leaf (by rw [Scalar.escape, hs])
  have pair : (Value.tuple [.null, .text "w"]).Clean :=
    .seq rfl (by simp [nothing, text "w" (by decide)])
  have names : Escape.name "k" = "k" ∧ Escape.name "n" = "n" ∧ Escape.name "x" = "x" := by decide
  refine .map ?_ ?_
  · simp [Entries.CleanKeys, Key.escape, names]
  · simp [number, pair, text "v" (by decide)]

theorem clean_sampleEvent : sampleEvent.Clean where
  envelope := rfl
  id := rfl
  name := by
    simp only [sampleEvent, Option.getD_some, List.forall_mem_singleton]
    exact ⟨"a", rfl, by decide⟩
  value := by simp [sampleEvent, clean_samplePayload]

theorem sampleRecorded_again :
    (sample.validate sampleRecorded).result = .ok (some sampleRecorded) := by
  refine validate_idempotent clean_sampleEvent ?_ validate_sampleEvent
  intro rules hrules
  cases hrules
  refine ⟨⟨by decide, by decide⟩, ⟨?_, ?_⟩⟩
  · simp [Chain.Static, RuleSet.make, Rule.isCustom]
  · simp [Chain.Static, RuleSet.make, Rule.isCustom]

end Validator

end Allowlist
