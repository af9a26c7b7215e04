import Allowlist.Proofs.RuleSet.Concealment
import Allowlist.Proofs.RuleSet.Idempotence
import Allowlist.Proofs.Validator.Results

namespace Allowlist

theorem Entries.putAll_same {k : String} {x : Value} (es : Entries) :
    putAll (es.map fun _ => (Key.text k, x)) [(.text k, x)] = [(.text k, x)] := by
  induction es with
  | nil => rfl
  | cons e es ih => simpa [put] using ih

theorem Entries.ofList_same (k : String) (x : Value) (es : Entries) :
    ofList (es.map fun _ => (Key.text k, x)) = if es.isEmpty then [] else [(.text k, x)] := by
  cases es with
  | nil => rfl
  | cons e es => simpa [ofList_eq_putAll, put] using putAll_same es

namespace Validator

variable {v : Validator} {e : Event}

def unreachableData (e : Event) : Entries :=
  if (e.data.getD []).isEmpty then [] else [markedEntry .unreachableMetadata]

theorem escape?_unreachableData (e : Event) :
    Entries.escape? (unreachableData e) = some (unreachableData e) := by
  unfold unreachableData
  split
  · rfl
  · rfl

theorem checkEntries_unreachable {g : String} {ctx : Context} (hv : v.registry = none) :
    v.checkEntries g ctx =
      .ok ((ctx.data.getD []).map fun _ => markedEntry .unreachableMetadata) := by
  rw [checkEntries, hv]

theorem validate_unreachable (hv : v.registry = none) (e : Event) :
    (v.validate e).result =
      .ok (some (recorded e Verdict.unreachableMetadata.mark (unreachableData e))) := by
  have hd : Entries.ofList ((e.data.getD []).map fun _ => markedEntry .unreachableMetadata) =
      unreachableData e := Entries.ofList_same _ _ _
  refine validate_ok_some.2 ⟨by simp [refuses, hv], .unreachableMetadata, _, _,
    idVerdict_unreachable hv, checkEntries_unreachable hv, ?_, rfl⟩
  rw [← escape?_unreachableData, ← hd]
  rfl

/-- Rules without custom ones do not let through in what two values differ that conceal it from
them. Without rules nothing of an event shows but its envelope, and whether it has data. -/
theorem validation_conceals :
    (∀ {r : RuleSet} {ctx : Context} (ctx' : Context) {name : String} {x y : Value}, r.Static →
      r.Conceals ctx name x y →
      (r.checkField ctx name x).result = (r.checkField ctx' name y).result ∧
        (r.Writes name x → ∃ f, (r.checkField ctx name x).result = .ok f)) ∧
    ∀ {v : Validator} {e e' : Event}, v.registry = none → e.envelope = e'.envelope →
      e.state = e'.state → e.count = e'.count →
      ((e.data.getD []).isEmpty = (e'.data.getD []).isEmpty) →
      ∃ r, (v.validate e).result = .ok (some r) ∧ (v.validate e').result = .ok (some r) := by
  constructor
  · intro r ctx ctx' name x y hr h
    constructor
    · exact (hr.neverFails.result_eq_iff hr.neverFails).2 (h.checks_iff hr name)
    · exact fun hw => hr.neverFails.exists_checks hw name
  · intro v e e' hv henv hstate hcount hdata
    refine ⟨_, validate_unreachable hv e, ?_⟩
    rw [validate_unreachable hv e', recorded, recorded, unreachableData, unreachableData, henv,
      hstate, hcount, hdata]

def concealingPayload (n : Int) (x : Value) : Value :=
  .map [(.text "k", .list [.text "v", .leaf (.int n)]), (.text "z", .leaf (.int n)),
    (.leaf (.int 3), x)]

theorem conceals_concealingPayload (x y : Value) :
    RuleSet.sampleRules.Conceals sampleEvent.context "a" (concealingPayload 1 x)
      (concealingPayload 2 y) := by
  have refused : RuleSet.sampleRules.Conceals sampleEvent.context (joinPath "a" "k")
      (.leaf (.int 1)) (.leaf (.int 2)) :=
    .leaf (by decide) (by decide) (by decide)
      (.inr ⟨_, _, .rejected, by decide, rfl, rfl, rfl, rfl⟩)
  have ungoverned : RuleSet.sampleRules.Conceals sampleEvent.context (joinPath "a" "z")
      (.leaf (.int 1)) (.leaf (.int 2)) :=
    .leaf (by decide) (by decide) (by decide) (.inl (by decide))
  refine .map (by decide) rfl ?_
  intro k x y h
  simp only [List.zip_cons_cons, List.zip_nil_left, List.mem_cons, Prod.mk.injEq, Key.leaf.injEq,
    Scalar.text.injEq, reduceCtorEq, List.not_mem_nil] at h
  rcases h with ⟨⟨rfl, rfl⟩, -, rfl⟩ | ⟨⟨rfl, rfl⟩, -, rfl⟩ | h
  · refine .seq (by decide) rfl rfl rfl ?_
    intro x y h
    simp only [List.zip_cons_cons, List.zip_nil_left, List.mem_cons, Prod.mk.injEq,
      List.not_mem_nil, or_false] at h
    rcases h with ⟨rfl, rfl⟩ | ⟨rfl, rfl⟩
    · exact .refl
    · exact refused
  · exact ungoverned
  · simp at h

theorem static_sampleRules : RuleSet.sampleRules.Static where
  eventId := by simp [RuleSet.sampleRules, RuleSet.make, Chain.Static]
  field := by
    simp [RuleSet.sampleRules, RuleSet.make, Chain.Static, Rule.isCustom, Rule.acceptAll]

theorem writes_concealingPayload :
    RuleSet.sampleRules.Writes "a" (concealingPayload 1 .null) := by
  apply RuleSet.writes_of_short
  simp [Value.Short, concealingPayload, Value.leaves, Value.leavesUnder, Value.leavesAll,
    Leaf.below]
  decide

theorem concealingPayload_checked_alike :
    (∃ f, (RuleSet.sampleRules.checkField sampleEvent.context "a"
        (concealingPayload 1 .null)).result = .ok f ∧
      (RuleSet.sampleRules.checkField ⟨"f", none⟩ "a"
        (concealingPayload 2 (.list []))).result = .ok f) ∧
    ∃ r, ((⟨none, []⟩ : Validator).validate sampleEvent).result = .ok (some r) ∧
      ((⟨none, []⟩ : Validator).validate
        { sampleEvent with id := "f", data := some [(.null, .null)] }).result = .ok (some r) := by
  constructor
  · obtain ⟨heq, hok⟩ := validation_conceals.1 ⟨"f", none⟩ static_sampleRules
      (conceals_concealingPayload .null (.list []))
    obtain ⟨f, hf⟩ := hok writes_concealingPayload
    exact ⟨f, hf, heq ▸ hf⟩
  · exact validation_conceals.2 rfl rfl rfl rfl rfl

end Validator

end Allowlist
