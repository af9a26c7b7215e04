import Allowlist.Proofs.RuleSet.Congruence
import Allowlist.Proofs.RuleSet.Total

namespace Allowlist

def Rule.isCustom : Rule → Bool
  | .custom _ _ => true
  | _ => false

theorem Rule.evaluate_static {rule : Rule} (h : rule.isCustom = false) (text : String)
    (ctx ctx' : Context) : rule.evaluate text ctx = rule.evaluate text ctx' := by
  cases rule with
  | custom => cases h
  | _ => rfl

theorem Rule.neverFails {rule : Rule} (h : rule.isCustom = false) (ctx : Context) :
    rule.NeverFails ctx := by
  intro text
  cases rule with
  | custom => cases h
  | _ => exact ⟨_, rfl⟩

def Chain.Static (rules : Chain) : Prop := ∀ rule ∈ rules, rule.isCustom = false

theorem Chain.evaluateFrom_static {rules : Chain} (h : rules.Static) (text : String)
    (ctx ctx' : Context) (last : Verdict) :
    (evaluateFrom text ctx last rules).result = (evaluateFrom text ctx' last rules).result := by
  induction rules generalizing last with
  | nil => rfl
  | cons rule rules ih =>
    obtain ⟨hrule, hrules⟩ := List.forall_mem_cons.1 h
    have heq := Rule.evaluate_static hrule text ctx ctx'
    cases h : rule.evaluate text ctx' with
    | error e => rw [result_cons_of_error (heq.trans h), result_cons_of_error h]
    | ok v =>
      cases hv : v.isFinal with
      | true => rw [result_cons_of_final (heq.trans h) hv, result_cons_of_final h hv]
      | false =>
        rw [result_cons_of_not_final (heq.trans h) hv, result_cons_of_not_final h hv]
        exact ih hrules v

theorem Chain.evaluate_static {rules : Chain} (h : rules.Static) (text : String)
    (ctx ctx' : Context) :
    (evaluate text ctx rules).result = (evaluate text ctx' rules).result :=
  evaluateFrom_static h text ctx ctx' _

namespace RuleSet

variable {r : RuleSet} {ctx ctx' : Context}

structure Static (r : RuleSet) : Prop where
  eventId : r.eventIdRules.Static
  field : ∀ e ∈ r.fieldRules, Chain.Static e.2

theorem Static.chainAt (h : r.Static) (path : String) : (r.chainAt path).Static :=
  forall_chainAt h.field path

theorem Static.neverFails (h : r.Static) : r.NeverFails ctx :=
  fun e he rule hrule => Rule.neverFails (h.field e he rule hrule) ctx

theorem Static.alike (h : r.Static) {p : String} : Alike r ctx p r ctx' p where
  excluded _ := rfl
  leaf t name s f hf := by
    simpa only [checksLeaf_iff, Chain.evaluate_static (h.chainAt _) _ ctx ctx'] using hf

theorem Static.checkEventIdIn {rules : Option RuleSet} (h : ∀ r, rules = some r → r.Static)
    (hid : ctx.eventId = ctx'.eventId) :
    (checkEventIdIn rules ctx).result = (checkEventIdIn rules ctx').result := by
  cases rules with
  | none => rfl
  | some r =>
    simp only [RuleSet.checkEventIdIn, checkEventId, hid,
      apply_ite Run.result, Chain.evaluate_static (h r rfl).eventId _ ctx ctx']

end RuleSet

end Allowlist
