import Allowlist.Proofs.RuleSet.Calls

namespace Allowlist

def Rule.NeverFails (ctx : Context) (rule : Rule) : Prop :=
  ∀ text, ∃ v, rule.evaluate text ctx = .ok v

def Chain.NeverFails (ctx : Context) (rules : Chain) : Prop := ∀ rule ∈ rules, rule.NeverFails ctx

def Value.Short (v : Value) : Prop :=
  ∀ l ∈ v.leaves, ∀ n, l.scalar = .int n → (toString n.natAbs).length ≤ Text.maxDigits

theorem Value.Short.entry {es : Entries} {k : Key} {v : Value} (h : (map es).Short)
    (hv : (k, v) ∈ es) : v.Short := by
  intro l hl n hn
  have below : l.below k ∈ (map es).leaves := by
    rw [leaves_map]
    exact List.mem_flatMap.2 ⟨(k, v), hv, List.mem_map_of_mem hl⟩
  exact h (l.below k) below n hn

namespace RuleSet

variable {r : RuleSet} {ctx : Context}

theorem forall_chainAt {P : Rule → Prop} (h : ∀ e ∈ r.fieldRules, ∀ rule ∈ e.2, P rule)
    (path : String) : ∀ rule ∈ r.chainAt path, P rule := by
  rw [chainAt]
  cases hl : r.fieldRules.lookup path with
  | none =>
    intro rule hrule
    cases hrule
  | some rules =>
    obtain ⟨ls, rs, hs, _⟩ := List.lookup_eq_some_iff.1 hl
    exact h (path, rules) (by simp [hs])

def NeverFails (r : RuleSet) (ctx : Context) : Prop :=
  ∀ e ∈ r.fieldRules, Chain.NeverFails ctx e.2

theorem NeverFails.chainAt (h : r.NeverFails ctx) (path : String) :
    (r.chainAt path).NeverFails ctx := forall_chainAt h path

/-- Every leaf that rules govern has a text for them. -/
def Writes (r : RuleSet) (path : String) (v : Value) : Prop :=
  ∀ l ∈ v.leaves, r.governs path l = true → ∃ t, l.scalar.ruleText = .ok t

variable {path name : String} {v : Value}

theorem writes_of_short (h : v.Short) : r.Writes path v := by
  intro l hl _
  cases ht : l.scalar.ruleText with
  | ok t => exact ⟨t, rfl⟩
  | error e =>
    obtain ⟨n, hn, long, _⟩ := Scalar.ruleText_eq_error_iff.1 ht
    exact absurd (h l hl n hn) (Nat.not_le.2 long)

theorem call_mem_plan {c : Call} (h : .call c ∈ r.plan ctx path v) :
    c.context = ctx ∧ ∃ p, c.rule ∈ r.chainAt p := by
  obtain ⟨l, _, hc⟩ := List.mem_flatMap.1 h
  unfold attempts at hc
  split at hc
  · obtain ⟨d, hd, hdc⟩ := List.mem_map.1 hc
    cases hdc
    obtain ⟨hrule, hctx⟩ := Chain.rule_mem_of_mem_calls hd
    exact ⟨hctx, _, hrule⟩
  · simp at hc

theorem lapse_mem_plan_iff {e : Failure} : .lapse e ∈ r.plan ctx path v ↔
    ∃ l ∈ v.leaves, r.governs path l = true ∧ l.scalar.ruleText = .error e := by
  have attempted : ∀ l, .lapse e ∈ r.attempts ctx path l ↔ l.scalar.ruleText = .error e := by
    intro l
    unfold attempts
    cases l.scalar.ruleText <;> simp [@eq_comm _ e]
  simp [plan, attempted, and_assoc]

theorem writes_iff : r.Writes path v ↔ ∀ e, .lapse e ∉ r.plan ctx path v := by
  simp only [lapse_mem_plan_iff, not_exists, not_and]
  constructor
  · intro h e l hl hg he
    obtain ⟨t, ht⟩ := h l hl hg
    cases ht.symm.trans he
  · intro h l hl hg
    cases ht : l.scalar.ruleText with
    | ok t => exact ⟨t, rfl⟩
    | error e => exact absurd ht (h e l hl hg)

theorem eq_of_lapse_mem_plan {e : Failure} (h : .lapse e ∈ r.plan ctx path v) :
    e = ⟨Text.digitLimit ""⟩ := by
  obtain ⟨l, _, _, he⟩ := lapse_mem_plan_iff.1 h
  obtain ⟨_, _, _, he⟩ := Scalar.ruleText_eq_error_iff.1 he
  exact he

theorem checks_or_fails (path name : String) (v : Value)
    (h : ∀ c ∈ (r.check ctx path name v).calls, c.fails = false) :
    (∃ f, r.Checks ctx path name v f) ∧ r.Writes path v ∨
      (r.check ctx path name v).result = .error ⟨Text.digitLimit ""⟩ ∧ ¬ r.Writes path v := by
  cases (check_follows r ctx path name v).ok_or_lapse h with
  | inl h => exact .inl ⟨h.1, writes_iff.2 h.2⟩
  | inr h =>
    obtain ⟨e, hr, he⟩ := h
    rw [← eq_of_lapse_mem_plan he]
    exact .inr ⟨hr, fun hw => writes_iff.1 hw e he⟩

theorem NeverFails.calls (h : r.NeverFails ctx) :
    ∀ c ∈ (r.check ctx path name v).calls, c.fails = false := by
  intro c hc
  obtain ⟨hctx, p, hrule⟩ := call_mem_plan ((check_follows r ctx path name v).mem_plan hc)
  obtain ⟨u, hu⟩ := h.chainAt p _ hrule c.text
  exact Call.fails_of_ok (hctx ▸ hu)

theorem NeverFails.exists_checks (h : r.NeverFails ctx) (hv : r.Writes path v) (name : String) :
    ∃ f, r.Checks ctx path name v f :=
  (checks_or_fails _ _ _ h.calls).elim (·.1) fun hr => absurd hv hr.2

theorem NeverFails.check_fails (h : r.NeverFails ctx) (hv : ¬ r.Writes path v) (name : String) :
    (r.check ctx path name v).result = .error ⟨Text.digitLimit ""⟩ :=
  (checks_or_fails _ _ _ h.calls).elim (fun hf => absurd hf.2 hv) (·.1)

theorem NeverFails.result_eq_iff (h : r.NeverFails ctx) {r' : RuleSet} {ctx' : Context}
    (h' : r'.NeverFails ctx') {path' : String} {w : Value} :
    (r.check ctx path name v).result = (r'.check ctx' path' name w).result ↔
      ∀ f, r.Checks ctx path name v f ↔ r'.Checks ctx' path' name w f := by
  refine ⟨fun heq f => by rw [Checks, Checks, heq], fun hiff => ?_⟩
  cases checks_or_fails path name v h.calls with
  | inl hv =>
    obtain ⟨⟨f, hf⟩, _⟩ := hv
    exact hf.trans ((hiff f).1 hf).symm
  | inr hv =>
    cases checks_or_fails path' name w h'.calls with
    | inl hw =>
      obtain ⟨⟨f, hf⟩, _⟩ := hw
      exact ((hiff f).2 hf).trans hf.symm
    | inr hw => exact hv.1.trans hw.1.symm

end RuleSet

end Allowlist
