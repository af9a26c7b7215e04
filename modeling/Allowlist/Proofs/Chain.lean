import Allowlist.Chain
import Allowlist.Proofs.Run

namespace Allowlist.Chain

def decides (c : Call) : Bool :=
  match c.answer with
  | .ok v => v.isFinal
  | .error _ => false

def calls (text : String) (ctx : Context) (rules : Chain) : List Call :=
  upTo decides (rules.map (⟨·, text, ctx⟩))

variable {text : String} {ctx : Context} {rule : Rule} {rules : Chain}

theorem calls_cons_of_decides (h : decides ⟨rule, text, ctx⟩ = true) :
    calls text ctx (rule :: rules) = [⟨rule, text, ctx⟩] := by
  rw [calls, List.map_cons, upTo_cons_of_pos h]

theorem calls_cons_of_not_decides (h : decides ⟨rule, text, ctx⟩ = false) :
    calls text ctx (rule :: rules) = [⟨rule, text, ctx⟩] ++ calls text ctx rules := by
  rw [calls, List.map_cons, upTo_cons_of_neg h, List.singleton_append, calls]

theorem rule_mem_of_mem_calls {c : Call} (h : c ∈ calls text ctx rules) :
    c.rule ∈ rules ∧ c.context = ctx := by
  obtain ⟨rule, hrule, rfl⟩ := List.mem_map.1 (List.mem_of_mem_take h)
  exact ⟨hrule, rfl⟩

theorem evaluateFrom_follows (text : String) (ctx : Context) (last : Verdict) (rules : Chain) :
    (evaluateFrom text ctx last rules).Follows ((calls text ctx rules).map .call) := by
  induction rules generalizing last with
  | nil => exact .pure
  | cons rule rules ih =>
    have first := Run.Follows.call rule text ctx
    by_cases h : decides ⟨rule, text, ctx⟩ = true
    · rw [calls_cons_of_decides h, ← List.append_nil [_]]
      refine first.bind fun v hv => ?_
      have hv : rule.evaluate text ctx = .ok v := hv
      have final : v.isFinal = true := by simpa [decides, Call.answer, hv] using h
      rw [if_pos final]
      exact .pure
    · rw [Bool.not_eq_true] at h
      rw [calls_cons_of_not_decides h, List.map_append]
      refine first.bind fun v hv => ?_
      have hv : rule.evaluate text ctx = .ok v := hv
      have final : v.isFinal = false := by simpa [decides, Call.answer, hv] using h
      rw [if_neg (by simp [final])]
      exact ih v

end Allowlist.Chain
