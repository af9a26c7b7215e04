import Allowlist.Proofs.Escape.Values
import Allowlist.Proofs.RuleSet.Vouched
import Allowlist.Proofs.Validator.Results

namespace Allowlist

theorem Entries.value_of_withFieldNames? {es fs : Entries} (h : withFieldNames? es = some fs)
    {f : Key × Value} (hf : f ∈ fs) : ∃ e ∈ es, f.2 = e.2.escape := by
  induction es generalizing fs with
  | nil =>
    cases h
    cases hf
  | cons e es ih =>
    simp only [withFieldNames?, Option.bind_eq_bind, Option.bind_eq_some_iff, Option.pure_def,
      Option.some.injEq] at h
    obtain ⟨k, _, fs, hfs, rfl⟩ := h
    cases hf with
    | head => exact ⟨e, .head _, rfl⟩
    | tail _ hf =>
      obtain ⟨e', he, hv⟩ := ih hfs hf
      exact ⟨e', .tail _ he, hv⟩

theorem Entries.holds_escape? {es data : Entries} {pos : Position} {y : Value}
    (h : escape? (ofList es) = some data) (hy : (Value.map data).Holds pos y)
    (ha : y.isAtom = true) :
    ∃ e ∈ es, ∃ pos x, e.2.Holds pos x ∧ x.isAtom = true ∧ y = x.escape := by
  rw [escape?, Option.map_eq_some_iff] at h
  obtain ⟨fs, hfs, rfl⟩ := h
  obtain ⟨k, w, pos, rfl, hw, hy⟩ := hy.entry_inv ha
  obtain ⟨k, hw, _⟩ := mem_ofList hw
  obtain ⟨e, he, hv⟩ := value_of_withFieldNames? hfs hw
  obtain ⟨k, he, _⟩ := mem_ofList he
  cases hv
  exact ⟨_, he, Value.holds_escape hy ha⟩

namespace Validator

variable {v : Validator} {e r : Event}

/-- The rules vouch for a leaf of the data of an event. -/
def Vouches (v : Validator) (e : Event) (x : Value) : Prop :=
  ∃ rules name y pos, v.rules? e.envelope.groupId = some rules ∧
    (.text name, y) ∈ e.data.getD [] ∧ rules.Vouched e.context name y pos x

def VouchesId (v : Validator) (e : Event) : Prop :=
  v.registry.isSome = true ∧ (e.id ∈ v.systemEvents ∨ isMark e.id = true ∨
    ∃ rules, v.rules? e.envelope.groupId = some rules ∧
      (Chain.evaluate e.id e.context rules.eventIdRules).result = .ok .accepted)

theorem vouchesId_of_accepted
    (h : v.idVerdict e.envelope.groupId e.context = .ok .accepted) : v.VouchesId e := by
  cases hv : v.registry with
  | none =>
    rw [idVerdict_unreachable hv] at h
    cases h
  | some reg =>
    refine ⟨by rw [hv]; rfl, ?_⟩
    by_cases hs : e.id ∈ v.systemEvents
    · exact .inl hs
    by_cases hm : isMark e.id = true
    · exact .inr (.inl hm)
    rw [Bool.not_eq_true] at hm
    rw [idVerdict_of_not_mem hv hs] at h
    cases hr : v.rules? e.envelope.groupId with
    | none =>
      rw [hr] at h
      cases h
    | some rules =>
      rw [hr] at h
      by_cases hc : rules.eventIdRules = []
      · rw [RuleSet.checkEventIdIn_undeclared hc] at h
        cases h
      · rw [RuleSet.checkEventIdIn_chain hc hm] at h
        exact .inr (.inr ⟨rules, rfl, h⟩)

theorem recordedId_vouched {verdict : Verdict}
    (h : v.idVerdict e.envelope.groupId e.context = .ok verdict) :
    isMark (Escape.value (recordedId e.id verdict)) = true ∨
      Escape.value (recordedId e.id verdict) = Escape.value e.id ∧ v.VouchesId e := by
  by_cases hu : verdict = .accepted
  · subst hu
    exact .inr ⟨rfl, vouchesId_of_accepted h⟩
  · rw [recordedId, if_neg hu, Escape.value_mark]
    exact .inl (isMark_mark verdict)

theorem passes_of_checkEntry {rules : RuleSet} {ctx : Context} {e f : Key × Value} {pos : Position}
    {x : Value} (h : checkEntry rules ctx e = .ok f) (hx : f.2.Holds pos x)
    (ha : x.isAtom = true) :
    x.isMark = true ∨ ∃ name pos, e.1 = .text name ∧ rules.Vouched ctx name e.2 pos x := by
  obtain ⟨k, y⟩ := e
  by_cases hk : k.isText = true
  · obtain ⟨name, rfl⟩ := Key.isText_iff.1 hk
    obtain ⟨g, hg, rfl⟩ := checkEntry_named.1 h
    refine (hg.passes hx ha).imp_right ?_
    rintro ⟨pos, hpos⟩
    exact ⟨name, pos, rfl, hpos⟩
  · rw [Bool.not_eq_true] at hk
    exact .inl (Unnamed.isMark_of_check? ((checkEntry_unnamed hk).1 h) hx ha)

theorem passes_of_checkEntries {es : Entries} {f : Key × Value} {pos : Position} {x : Value}
    (h : v.checkEntries e.envelope.groupId e.context = .ok es) (hf : f ∈ es)
    (hx : f.2.Holds pos x) (ha : x.isAtom = true) : x.isMark = true ∨ v.Vouches e x := by
  have marked : ∀ u, (e.data.getD []).map (fun _ => markedEntry u) = es → x.isMark = true := by
    rintro u rfl
    obtain ⟨_, _, rfl⟩ := List.mem_map.1 hf
    exact isMark_of_holds hx
  cases hr : v.rules? e.envelope.groupId with
  | none =>
    obtain ⟨u, hu⟩ := checkEntries_marked hr
    rw [hu] at h
    exact .inl (marked u (Except.ok.inj h))
  | some rules =>
    rw [checkEntries_ruled hr, mapM_ok] at h
    obtain ⟨⟨k, y⟩, hy, hc⟩ := h.exists_left hf
    refine (passes_of_checkEntry hc hx ha).imp_right ?_
    rintro ⟨name, pos, rfl, hpos⟩
    exact ⟨rules, name, y, pos, hr, hy, hpos⟩

/-- Nothing is recorded but marks and what the rules vouch for, escaped. -/
theorem validate_vouched (h : (v.validate e).result = .ok (some r)) :
    (isMark r.id = true ∨ r.id = Escape.value e.id ∧ v.VouchesId e) ∧
      ∀ pos y, (Value.map (r.data.getD [])).Holds pos y → y.isAtom = true →
        y.isMark = true ∨ ∃ x, v.Vouches e x ∧ y = x.escape := by
  obtain ⟨_, verdict, es, data, hid, hes, hdata, rfl⟩ := validate_ok_some.1 h
  refine ⟨recordedId_vouched hid, ?_⟩
  intro pos y hy ha
  obtain ⟨f, hf, pos, x, hx, hxa, rfl⟩ := Entries.holds_escape? hdata hy ha
  cases passes_of_checkEntries hes hf hx hxa with
  | inl hm =>
    obtain ⟨u, rfl⟩ := Value.isMark_iff.1 hm
    rw [Value.escape_mark]
    exact .inl u.value_isMark
  | inr hv => exact .inr ⟨x, hv, rfl⟩

theorem sampleRecorded_vouched :
    (sample.validate sampleEvent).result = .ok (some sampleRecorded) ∧
      sample.VouchesId sampleEvent ∧ ∃ x, sample.Vouches sampleEvent x ∧ .text "v" = x.escape := by
  obtain ⟨hid, hdata⟩ := validate_vouched validate_sampleEvent
  refine ⟨validate_sampleEvent, (hid.resolve_left (by decide)).2, ?_⟩
  exact (hdata [.key (.text "a"), .key (.text "k")] (.text "v")
    (.entry (.head _) (.entry (.head _) .here)) rfl).resolve_left (by decide)

end Validator

end Allowlist
