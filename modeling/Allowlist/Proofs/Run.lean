import Allowlist.Run

namespace Allowlist

def Call.answer (c : Call) : Except Failure Verdict := c.rule.evaluate c.text c.context

def Call.fails (c : Call) : Bool :=
  match c.answer with
  | .error _ => true
  | .ok _ => false

theorem Call.fails_of_ok {c : Call} {v : Verdict} (h : c.answer = .ok v) : c.fails = false := by
  rw [fails, h]

section

variable {α : Type} {p : α → Bool} {a : α} {as bs : List α}

/-- The elements up to the first one with `p`, which is the last then. -/
def upTo (p : α → Bool) (as : List α) : List α := as.take (as.findIdx p + 1)

@[simp] theorem upTo_nil : upTo p [] = [] := rfl

theorem upTo_cons_of_pos (h : p a = true) : upTo p (a :: as) = [a] := by
  simp [upTo, List.findIdx_cons, h]

theorem upTo_cons_of_neg (h : p a = false) : upTo p (a :: as) = a :: upTo p as := by
  simp [upTo, List.findIdx_cons, h]

theorem upTo_of_forall (h : ∀ a ∈ as, p a = false) : upTo p as = as := by
  induction as with
  | nil => rfl
  | cons a as ih =>
    rw [List.forall_mem_cons] at h
    rw [upTo_cons_of_neg h.1, ih h.2]

theorem upTo_append_cons (h : ∀ a ∈ as, p a = false) (ha : p a = true) :
    upTo p (as ++ a :: bs) = as ++ [a] := by
  induction as with
  | nil => exact upTo_cons_of_pos ha
  | cons b as ih =>
    rw [List.forall_mem_cons] at h
    rw [List.cons_append, upTo_cons_of_neg h.1, ih h.2, List.cons_append]

end

namespace Run

variable {α β γ δ : Type}

@[simp] theorem pure_result (a : α) : (Pure.pure a : Run α).result = .ok a := rfl

theorem bind_result_ok {r : Run α} {f : α → Run β} {b : β} :
    (r >>= f).result = .ok b ↔ ∃ a, r.result = .ok a ∧ (f a).result = .ok b := by
  obtain ⟨cs, result⟩ := r
  cases result with
  | error e => simp
  | ok a => simp

/-- Two runs make the same calls, and fail alike or give results that `R` relates. -/
inductive InStep (R : α → β → Prop) : Run α → Run β → Prop
  | ok {calls a b} : R a b → InStep R ⟨calls, .ok a⟩ ⟨calls, .ok b⟩
  | error {calls e} : InStep R ⟨calls, .error e⟩ ⟨calls, .error e⟩

namespace InStep

variable {R : α → β → Prop} {S : γ → δ → Prop} {a : Run α} {b : Run β}

theorem pure {x : α} {y : β} (h : R x y) : InStep R (Pure.pure x) (Pure.pure y) := .ok h

theorem refl {R : α → α → Prop} (h : ∀ x, R x x) (a : Run α) : InStep R a a := by
  obtain ⟨calls, e | x⟩ := a
  · exact .error
  · exact .ok (h x)

theorem bind {f : α → Run γ} {g : β → Run δ} (h : InStep R a b)
    (hfg : ∀ x y, R x y → InStep S (f x) (g y)) : InStep S (a >>= f) (b >>= g) := by
  cases h with
  | error => exact .error
  | @ok calls x y hr =>
    have step := hfg x y hr
    rw [bind_ok, bind_ok]
    cases hx : f x with
    | mk cs s =>
      cases hy : g y with
      | mk ds t =>
        rw [hx, hy] at step
        cases step with
        | ok hs => exact .ok hs
        | error => exact .error

theorem eq {a b : Run α} (h : InStep Eq a b) : a = b := by
  cases h with
  | error => rfl
  | ok h => rw [h]

end InStep

/-- What a run comes to: a call, or a failure that no rule is asked about. -/
inductive Attempt
  | call (c : Call)
  | lapse (e : Failure)

namespace Attempt

def failure? : Attempt → Option Failure
  | call c =>
    match c.answer with
    | .error e => some e
    | .ok _ => none
  | lapse e => some e

def fails (t : Attempt) : Bool := t.failure?.isSome

def call? : Attempt → Option Call
  | call c => some c
  | lapse _ => none

theorem failure?_call {c : Call} {e : Failure} :
    (call c).failure? = some e ↔ c.answer = .error e := by
  cases h : c.answer <;> simp [failure?, h]

theorem failure?_call_eq_none {c : Call} : (call c).failure? = none ↔ c.fails = false := by
  cases h : c.answer <;> simp [failure?, Call.fails, h]

theorem fails_eq_false_iff {t : Attempt} : t.fails = false ↔ t.failure? = none := by
  simp [fails]

theorem fails_of_failure? {t : Attempt} {e : Failure} (h : t.failure? = some e) :
    t.fails = true := by
  rw [fails, h]
  rfl

end Attempt

/-- A run makes the calls of a plan in order, up to the first attempt that fails. -/
inductive Follows : List Attempt → Run α → Prop
  | through {plan a} : (∀ t ∈ plan, t.failure? = none) →
      Follows plan ⟨plan.filterMap Attempt.call?, .ok a⟩
  | failed {before t after e} : (∀ s ∈ before, s.failure? = none) → t.failure? = some e →
      Follows (before ++ t :: after) ⟨(before ++ [t]).filterMap Attempt.call?, .error e⟩

namespace Follows

variable {plan plan' : List Attempt} {run : Run α} {a : α} {e : Failure}

theorem pure : Follows [] (Pure.pure a : Run α) := .through (by simp)

theorem call (rule : Rule) (text : String) (ctx : Context) :
    Follows [.call ⟨rule, text, ctx⟩] (Run.call rule text ctx) := by
  cases h : rule.evaluate text ctx with
  | error e =>
    rw [Run.call, h]
    exact @failed _ [] _ [] _ (by simp) (Attempt.failure?_call.2 h)
  | ok v =>
    rw [Run.call, h]
    have answered : (Attempt.call ⟨rule, text, ctx⟩).failure? = none :=
      Attempt.failure?_call_eq_none.2 (Call.fails_of_ok h)
    exact .through (by simpa using answered)

theorem lapse : Follows (.lapse e :: plan) (lift (.error e) : Run α) :=
  @failed _ [] _ _ _ (by simp) rfl

theorem bind {f : α → Run β} (h : Follows plan run)
    (hf : ∀ a, run.result = .ok a → Follows plan' (f a)) : Follows (plan ++ plan') (run >>= f) := by
  cases h with
  | failed hbefore hc =>
    rw [bind_error, List.append_assoc, List.cons_append]
    exact .failed hbefore hc
  | @through _ a hplan =>
    have next := hf a rfl
    rw [bind_ok]
    cases hrun : f a with
    | mk calls result =>
      rw [hrun] at next
      cases next with
      | through hplan' =>
        rw [← List.filterMap_append]
        exact .through fun t ht => (List.mem_append.1 ht).elim (hplan t) (hplan' t)
      | @failed before t after e hbefore ht =>
        rw [← List.append_assoc, ← List.filterMap_append, ← List.append_assoc]
        exact .failed (fun s hs => (List.mem_append.1 hs).elim (hplan s) (hbefore s)) ht

theorem bind_pure {f : α → β} (h : Follows plan run) :
    Follows plan (run >>= fun a => Pure.pure (f a)) := by
  have next : ∀ a, run.result = .ok a → Follows [] (Pure.pure (f a)) := fun _ _ => .pure
  simpa using h.bind next

theorem calls_eq (h : Follows plan run) :
    run.calls = (upTo Attempt.fails plan).filterMap Attempt.call? := by
  cases h with
  | through hplan =>
    rw [upTo_of_forall fun t ht => Attempt.fails_eq_false_iff.2 (hplan t ht)]
  | failed hbefore ht =>
    rw [upTo_append_cons (fun s hs => Attempt.fails_eq_false_iff.2 (hbefore s hs))
      (Attempt.fails_of_failure? ht)]

theorem result_eq_error_iff (h : Follows plan run) :
    run.result = .error e ↔ ∃ t ∈ upTo Attempt.fails plan, t.failure? = some e := by
  cases h with
  | through hplan =>
    rw [upTo_of_forall fun t ht => Attempt.fails_eq_false_iff.2 (hplan t ht)]
    refine iff_of_false (by simp) ?_
    rintro ⟨t, ht, he⟩
    cases (hplan t ht).symm.trans he
  | @failed before t after e' hbefore ht =>
    rw [upTo_append_cons (fun s hs => Attempt.fails_eq_false_iff.2 (hbefore s hs))
      (Attempt.fails_of_failure? ht)]
    constructor
    · intro h
      cases h
      exact ⟨t, List.mem_append_right _ (.head _), ht⟩
    · rintro ⟨s, hs, he⟩
      cases List.mem_append.1 hs with
      | inl hs => cases (hbefore s hs).symm.trans he
      | inr hs =>
        cases List.mem_singleton.1 hs
        cases ht.symm.trans he
        rfl

theorem ok_or_lapse (h : Follows plan run) (hc : ∀ c ∈ run.calls, c.fails = false) :
    (∃ a, run.result = .ok a) ∧ (∀ e, .lapse e ∉ plan) ∨
      ∃ e, run.result = .error e ∧ .lapse e ∈ plan := by
  cases h with
  | @through _ a hplan => exact .inl ⟨⟨a, rfl⟩, fun e he => by cases hplan _ he⟩
  | @failed before t after e hbefore ht =>
    right
    cases t with
    | call c =>
      have answered := hc c (List.mem_filterMap.2 ⟨_, List.mem_append_right _ (.head _), rfl⟩)
      rw [Attempt.failure?_call_eq_none.2 answered] at ht
      cases ht
    | lapse e' =>
      cases ht
      exact ⟨e, rfl, List.mem_append_right _ (.head _)⟩

theorem mem_plan (h : Follows plan run) {c : Call} (hc : c ∈ run.calls) : .call c ∈ plan := by
  rw [h.calls_eq, List.mem_filterMap] at hc
  obtain ⟨t, ht, htc⟩ := hc
  cases t with
  | call d =>
    cases htc
    exact List.mem_of_mem_take ht
  | lapse e => cases htc

end Follows

end Run

end Allowlist
