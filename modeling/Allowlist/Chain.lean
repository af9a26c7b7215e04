import Allowlist.Run

namespace Allowlist

abbrev Chain := List Rule

namespace Chain

def evaluateFrom (text : String) (ctx : Context) (last : Verdict) : Chain → Run Verdict
  | [] => pure last
  | r :: rs => do
    let v ← Run.call r text ctx
    if v.isFinal then pure v else evaluateFrom text ctx v rs

def evaluate (text : String) (ctx : Context) (rules : Chain) : Run Verdict :=
  evaluateFrom text ctx .rejected rules

@[simp] theorem evaluateFrom_nil (text : String) (ctx : Context) (last : Verdict) :
    evaluateFrom text ctx last [] = pure last := rfl

section Step

variable {text : String} {ctx : Context} {last v : Verdict} {r : Rule} {rs : Chain} {e : Failure}

theorem evaluateFrom_cons_of_error (h : r.evaluate text ctx = .error e) :
    evaluateFrom text ctx last (r :: rs) = ⟨[⟨r, text, ctx⟩], .error e⟩ := by
  simp [evaluateFrom, Run.call, h]

theorem evaluateFrom_cons_of_final (h : r.evaluate text ctx = .ok v) (hv : v.isFinal = true) :
    evaluateFrom text ctx last (r :: rs) = ⟨[⟨r, text, ctx⟩], .ok v⟩ := by
  simp [evaluateFrom, Run.call, h, hv, Run.pure_eq]

theorem evaluateFrom_cons_of_not_final (h : r.evaluate text ctx = .ok v) (hv : v.isFinal = false) :
    evaluateFrom text ctx last (r :: rs) =
      ⟨⟨r, text, ctx⟩ :: (evaluateFrom text ctx v rs).calls,
        (evaluateFrom text ctx v rs).result⟩ := by
  simp [evaluateFrom, Run.call, h, hv]

theorem result_cons_of_error (h : r.evaluate text ctx = .error e) :
    (evaluateFrom text ctx last (r :: rs)).result = .error e := by
  rw [evaluateFrom_cons_of_error h]

theorem result_cons_of_final (h : r.evaluate text ctx = .ok v) (hv : v.isFinal = true) :
    (evaluateFrom text ctx last (r :: rs)).result = .ok v := by
  rw [evaluateFrom_cons_of_final h hv]

theorem result_cons_of_not_final (h : r.evaluate text ctx = .ok v) (hv : v.isFinal = false) :
    (evaluateFrom text ctx last (r :: rs)).result = (evaluateFrom text ctx v rs).result := by
  rw [evaluateFrom_cons_of_not_final h hv]

end Step

theorem evaluateFrom_append (text : String) (ctx : Context) (last : Verdict) (rs ss : Chain)
    (h : last.isFinal = false) :
    evaluateFrom text ctx last (rs ++ ss) =
      evaluateFrom text ctx last rs >>= fun v =>
        if v.isFinal then pure v else evaluateFrom text ctx v ss := by
  induction rs generalizing last with
  | nil => simp [h]
  | cons r rs ih =>
    simp only [List.cons_append, evaluateFrom, Run.bind_assoc]
    congr 1
    funext v
    by_cases hv : v.isFinal = true
    · simp [hv]
    · have hv : v.isFinal = false := by simpa using hv
      simp [hv, ih v hv]

def evaluate? (text : String) (ctx : Context) : Option Chain → Run Verdict
  | none => pure .undefinedRule
  | some rules => evaluate text ctx rules

end Chain

end Allowlist
