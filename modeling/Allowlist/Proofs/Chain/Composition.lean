import Allowlist.Proofs.Chain
import Allowlist.Rule.Check

/-!
Chains in two parts. Where a rule of the first part fails or is final, no rule of the second part is
asked; else the second part decides, if it has rules.
-/

namespace Allowlist.Chain

def settles : Except Failure Verdict → Bool
  | .ok v => v.isFinal
  | .error _ => true

def ends (c : Call) : Bool := settles c.answer

variable {text : String} {ctx : Context} {last v : Verdict} {r : Rule} {rs ss : Chain}

theorem ends_eq_false_iff :
    ends ⟨r, text, ctx⟩ = false ↔ ∃ v, r.evaluate text ctx = .ok v ∧ v.isFinal = false := by
  rw [ends, Call.answer]
  cases r.evaluate text ctx <;> simp [settles]

theorem evaluateFrom_cons_of_ends (h : ends ⟨r, text, ctx⟩ = true) :
    evaluateFrom text ctx last (r :: rs) = Run.call r text ctx := by
  rw [ends, Call.answer] at h
  rw [Run.call]
  cases hr : r.evaluate text ctx with
  | error e => exact evaluateFrom_cons_of_error hr
  | ok v =>
    rw [hr] at h
    exact evaluateFrom_cons_of_final hr h

theorem calls_evaluateFrom (text : String) (ctx : Context) (last : Verdict) (rs : Chain) :
    (evaluateFrom text ctx last rs).calls = upTo ends (rs.map (⟨·, text, ctx⟩)) := by
  induction rs generalizing last with
  | nil => rfl
  | cons r rs ih =>
    rw [List.map_cons]
    cases h : ends ⟨r, text, ctx⟩ with
    | true =>
      rw [evaluateFrom_cons_of_ends h, upTo_cons_of_pos h]
      rfl
    | false =>
      obtain ⟨v, hr, hv⟩ := ends_eq_false_iff.1 h
      rw [evaluateFrom_cons_of_not_final hr hv, upTo_cons_of_neg h, ih v]

theorem settles_result (text : String) (ctx : Context) (h : last.isFinal = false) (rs : Chain) :
    settles (evaluateFrom text ctx last rs).result =
      (evaluateFrom text ctx last rs).calls.any ends := by
  induction rs generalizing last with
  | nil => exact h
  | cons r rs ih =>
    cases h : ends ⟨r, text, ctx⟩ with
    | true =>
      rw [evaluateFrom_cons_of_ends h, Run.call, List.any_cons, h, Bool.true_or]
      exact h
    | false =>
      obtain ⟨v, hr, hv⟩ := ends_eq_false_iff.1 h
      rw [evaluateFrom_cons_of_not_final hr hv, List.any_cons, h, Bool.false_or]
      exact ih hv

theorem evaluate_of_ne_nil (h : rs ≠ []) (last : Verdict) :
    evaluate text ctx rs = evaluateFrom text ctx last rs := by
  cases rs with
  | nil => exact absurd rfl h
  | cons r rs => rfl

theorem evaluate_append (hrs : rs ≠ []) :
    evaluate text ctx (rs ++ ss) =
      evaluate text ctx rs >>= fun v =>
        if v.isFinal then pure v else evaluateFrom text ctx v ss := by
  rw [evaluate_of_ne_nil (by simp [hrs]) .incorrectRule, evaluate_of_ne_nil hrs .incorrectRule]
  exact evaluateFrom_append text ctx .incorrectRule rs ss rfl

theorem settles_evaluate (hrs : rs ≠ []) :
    settles (evaluate text ctx rs).result = (evaluate text ctx rs).calls.any ends := by
  rw [evaluate_of_ne_nil hrs .incorrectRule]
  exact settles_result text ctx rfl rs

theorem evaluate_append_of_ends (h : (evaluate text ctx rs).calls.any ends = true) (ss : Chain) :
    evaluate text ctx (rs ++ ss) = evaluate text ctx rs := by
  have hrs : rs ≠ [] := by
    rintro rfl
    cases h
  rw [← settles_evaluate hrs] at h
  rw [evaluate_append hrs]
  generalize evaluate text ctx rs = first at h ⊢
  obtain ⟨calls, e | v⟩ := first
  · rfl
  · have hv : v.isFinal = true := h
    rw [Run.bind_ok, if_pos hv, Run.pure_eq, List.append_nil]

theorem evaluate_append_of_not_ends
    (h : (evaluate text ctx rs).calls.any ends = false) (hss : ss ≠ []) :
    evaluate text ctx (rs ++ ss) =
      ⟨(evaluate text ctx rs).calls ++ (evaluate text ctx ss).calls,
        (evaluate text ctx ss).result⟩ := by
  by_cases hrs : rs = []
  · subst hrs
    rfl
  rw [← settles_evaluate hrs] at h
  rw [evaluate_append hrs]
  generalize evaluate text ctx rs = first at h ⊢
  obtain ⟨calls, e | v⟩ := first
  · cases h
  have hv : v.isFinal = false := h
  rw [Run.bind_ok, if_neg (by simp [hv]), ← evaluate_of_ne_nil hss v]

theorem result_insert (hr : r.evaluate text ctx = .ok v) (hv : v.isFinal = false) (rs : Chain)
    (hss : ss ≠ []) :
    (evaluate text ctx (rs ++ r :: ss)).result = (evaluate text ctx (rs ++ ss)).result := by
  cases h : (evaluate text ctx rs).calls.any ends with
  | true => rw [evaluate_append_of_ends h, evaluate_append_of_ends h]
  | false =>
    rw [evaluate_append_of_not_ends h hss,
      evaluate_append_of_not_ends h (List.cons_ne_nil r ss)]
    change (evaluateFrom text ctx .rejected (r :: ss)).result = _
    rw [result_cons_of_not_final hr hv, ← evaluate_of_ne_nil hss v]

/-- Of a chain in two parts the rules of the first part are asked up to the first that fails or is
final. If there is one, the chain says what the first part says, and nothing of the second part is
asked; else it says what the second part says, or the first one where the second has no rules. So a
rule that is not final counts only in the last place. -/
theorem chains_compose (text : String) (ctx : Context) (rs ss : Chain) :
    (evaluate text ctx rs).calls = upTo ends (rs.map (⟨·, text, ctx⟩)) ∧
    ((∃ c ∈ (evaluate text ctx rs).calls, ends c = true) →
      evaluate text ctx (rs ++ ss) = evaluate text ctx rs) ∧
    ((∀ c ∈ (evaluate text ctx rs).calls, ends c = false) →
      (evaluate text ctx (rs ++ ss)).calls =
        (evaluate text ctx rs).calls ++ (evaluate text ctx ss).calls ∧
      (ss ≠ [] → (evaluate text ctx (rs ++ ss)).result = (evaluate text ctx ss).result) ∧
      (ss = [] → (evaluate text ctx (rs ++ ss)).result = (evaluate text ctx rs).result)) ∧
    ∀ r v, r.evaluate text ctx = .ok v → v.isFinal = false → ss ≠ [] →
      (evaluate text ctx (rs ++ r :: ss)).result = (evaluate text ctx (rs ++ ss)).result := by
  refine ⟨calls_evaluateFrom text ctx .rejected rs, ?_, ?_, ?_⟩
  · intro h
    exact evaluate_append_of_ends (List.any_eq_true.2 h) ss
  · intro h
    have hopen : (evaluate text ctx rs).calls.any ends = false := by simpa using h
    by_cases hss : ss = []
    · subst hss
      rw [List.append_nil]
      exact ⟨(List.append_nil _).symm, fun h => absurd rfl h, fun _ => rfl⟩
    · rw [evaluate_append_of_not_ends hopen hss]
      exact ⟨rfl, fun _ => rfl, fun h => absurd h hss⟩
  · intro r v hr hv hss
    exact result_insert hr hv rs hss

def openChain : Chain := [.constant .undefinedRule, .incorrect "enum:b"]

def endingChain : Chain := [.incorrect "enum:c", .enum ["a"], .custom "late" (Check.fails "asked")]

def failingChain : Chain := [.custom "broken" (Check.fails "down")]

theorem sampleChains_compose :
    (∃ c ∈ (evaluate "a" ⟨"e", none⟩ endingChain).calls, ends c = true) ∧
    evaluate "a" ⟨"e", none⟩ (endingChain ++ failingChain) = evaluate "a" ⟨"e", none⟩ endingChain ∧
    (evaluate "a" ⟨"e", none⟩ endingChain).result = .ok .accepted ∧
    (∀ c ∈ (evaluate "a" ⟨"e", none⟩ openChain).calls, ends c = false) ∧
    (evaluate "a" ⟨"e", none⟩ (openChain ++ failingChain)).result = .error ⟨"down"⟩ ∧
    (evaluate "a" ⟨"e", none⟩ (openChain ++ [])).result = .ok .incorrectRule ∧
    (evaluate "a" ⟨"e", none⟩ (openChain ++ .incorrect "enum:d" :: failingChain)).result =
      .error ⟨"down"⟩ := by
  have ended : ∃ c ∈ (evaluate "a" ⟨"e", none⟩ endingChain).calls, ends c = true := by decide
  have unended : ∀ c ∈ (evaluate "a" ⟨"e", none⟩ openChain).calls, ends c = false := by decide
  have hne : failingChain ≠ [] := List.cons_ne_nil _ _
  obtain ⟨-, -, continued, inserted⟩ := chains_compose "a" ⟨"e", none⟩ openChain failingChain
  have failed := (continued unended).2.1 hne
  refine ⟨ended, (chains_compose "a" ⟨"e", none⟩ endingChain failingChain).2.1 ended, rfl, unended,
    failed, ((chains_compose "a" ⟨"e", none⟩ openChain []).2.2.1 unended).2.2 rfl, ?_⟩
  exact (inserted (.incorrect "enum:d") .incorrectRule rfl rfl hne).trans failed

end Allowlist.Chain
