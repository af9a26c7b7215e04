import Allowlist.Chain
import Allowlist.Proofs.Run
import Allowlist.Proofs.Specifier.Unresolvable

namespace Allowlist

variable {text : String} {ctx : Context} {last last' v : Verdict}

theorem Rule.isFinal_verdictOf (b : Bool) : (verdictOf b).isFinal = true := by cases b <;> rfl

namespace Specifier

def UsesUtil (specifier : String) : Prop :=
  ∃ t ∈ parts specifier, ∃ p : Part, p.IsLine t.toList ∧ p.kind = "util"

instance (specifier : String) : Decidable (UsesUtil specifier) :=
  decidable_of_iff (∃ t ∈ parts specifier, (read? t).any (·.kind = "util") = true) <| by
    simp only [UsesUtil, Option.any_eq_true, read?_eq_some_iff, decide_eq_true_eq]

/-- What the first specifier that can be resolved says. -/
inductive FirstVerdict (s : Scope) (text : String) (ctx : Context) : List String → Verdict → Prop
  | resolved {specifiers t r v} : specifiers.find? (¬Unresolvable s ·) = some t →
      (resolve s t).result = .ok r → r.evaluate text ctx = .ok v →
      FirstVerdict s text ctx specifiers v
  | incorrect {specifiers} : specifiers ≠ [] → (∀ t ∈ specifiers, Unresolvable s t) →
      FirstVerdict s text ctx specifiers .incorrectRule
  | empty : FirstVerdict s text ctx [] .rejected

abbrev Resolves (s : Scope) : List String → Chain → Prop :=
  List.Forall₂ fun t r => (resolve s t).result = .ok r

variable {s : Scope} {t : String} {ts : List String} {r : Rule} {rules kept : Chain}

theorem chain_ok_iff : (chain s ts).result = .ok rules ↔ Resolves s ts rules :=
  Building.mapM_result_ok

theorem eq_incorrect (h : Unresolvable s t) (hr : (resolve s t).result = .ok r) :
    r = .incorrect t := by
  obtain ⟨kind, hkind⟩ := resolve_unresolvable h
  rw [hkind] at hr
  cases hr
  rfl

theorem result_unresolvable (h : Unresolvable s t) (hr : (resolve s t).result = .ok r) :
    (Chain.evaluateFrom text ctx last (r :: rules)).result =
      (Chain.evaluateFrom text ctx .incorrectRule rules).result := by
  rw [eq_incorrect h hr]
  exact Chain.result_cons_of_not_final rfl rfl

theorem result_filter_iff (hv : v.isFinal = true) (hlast : last ≠ v) (hlast' : last' ≠ v)
    (h : Resolves s ts rules) (hkept : Resolves s (ts.filter (¬Unresolvable s ·)) kept) :
    (Chain.evaluateFrom text ctx last rules).result = .ok v ↔
      (Chain.evaluateFrom text ctx last' kept).result = .ok v := by
  -- The two chains keep different verdicts to fall back on, and neither of these is `v`.
  induction h generalizing last last' kept with
  | nil =>
    cases hkept
    simp [hlast, hlast']
  | @cons t r ts rules hr _ ih =>
    by_cases hu : Unresolvable s t
    · have hne : Verdict.incorrectRule ≠ v := by
        rintro rfl
        cases hv
      rw [List.filter_cons_of_neg (by simpa using hu)] at hkept
      rw [result_unresolvable hu hr]
      exact ih hne hlast' hkept
    · rw [List.filter_cons_of_pos (by simpa using hu), Resolves,
        List.forall₂_cons_left_iff] at hkept
      obtain ⟨r', kept, hr', hkept, rfl⟩ := hkept
      obtain rfl := Except.ok.inj (hr.symm.trans hr')
      cases he : r.evaluate text ctx with
      | error e => rw [Chain.result_cons_of_error he, Chain.result_cons_of_error he]
      | ok w =>
        cases hw : w.isFinal with
        | true => rw [Chain.result_cons_of_final he hw, Chain.result_cons_of_final he hw]
        | false =>
          have hne : w ≠ v := by
            rintro rfl
            exact absurd hv (by simp [hw])
          rw [Chain.result_cons_of_not_final he hw, Chain.result_cons_of_not_final he hw]
          exact ih hne hne hkept

theorem exists_final (hutil : ¬UsesUtil t) (hu : ¬Unresolvable s t)
    (hr : (resolve s t).result = .ok r) (text : String) (ctx : Context) :
    ∃ v, r.evaluate text ctx = .ok v ∧ v.isFinal = true := by
  have hs : ∀ m, ¬Stops s t m := by
    intro m hm
    rw [stops_iff, hr] at hm
    cases hm
  obtain ⟨r', hr', hcases⟩ := resolve_resolvable hu hs
  rw [hr'] at hr
  cases hr
  obtain ⟨vs, rfl⟩ | ⟨e, rfl⟩ | ⟨name, hparts, hline, -⟩ := hcases
  · exact ⟨_, rfl, Rule.isFinal_verdictOf _⟩
  · exact ⟨_, rfl, Rule.isFinal_verdictOf _⟩
  · exact absurd ⟨t, mem_parts_of_part hparts, _, hline, rfl⟩ hutil

theorem result_of_find? (hutil : ∀ t ∈ ts, ¬UsesUtil t) (h : Resolves s ts rules)
    (hfind : ts.find? (¬Unresolvable s ·) = some t) :
    ∃ r v, (resolve s t).result = .ok r ∧ r.evaluate text ctx = .ok v ∧
      (Chain.evaluateFrom text ctx last rules).result = .ok v := by
  induction h generalizing last with
  | nil => cases hfind
  | @cons u r ts rules hr _ ih =>
    rw [List.forall_mem_cons] at hutil
    by_cases hu : Unresolvable s u
    · rw [List.find?_cons_of_neg (by simpa using hu)] at hfind
      rw [result_unresolvable hu hr]
      exact ih hutil.2 hfind
    · rw [List.find?_cons_of_pos (by simpa using hu)] at hfind
      cases hfind
      obtain ⟨v, hv, hfinal⟩ := exists_final hutil.1 hu hr text ctx
      exact ⟨r, v, hr, hv, Chain.result_cons_of_final hv hfinal⟩

theorem result_of_unresolvable (hu : ∀ t ∈ ts, Unresolvable s t) (h : Resolves s ts rules) :
    (Chain.evaluateFrom text ctx .incorrectRule rules).result = .ok .incorrectRule := by
  induction h with
  | nil => rfl
  | cons hr _ ih =>
    rw [List.forall_mem_cons] at hu
    rw [result_unresolvable hu.1 hr]
    exact ih hu.2

theorem exists_firstVerdict (hutil : ∀ t ∈ ts, ¬UsesUtil t) (h : Resolves s ts rules) :
    ∃ v, FirstVerdict s text ctx ts v ∧ (Chain.evaluate text ctx rules).result = .ok v := by
  cases hfind : ts.find? (¬Unresolvable s ·) with
  | some t =>
    obtain ⟨r, v, hr, hv, hresult⟩ := result_of_find? hutil h hfind
    exact ⟨v, .resolved hfind hr hv, hresult⟩
  | none =>
    have hall : ∀ t ∈ ts, Unresolvable s t := by simpa using hfind
    cases h with
    | nil => exact ⟨_, .empty, rfl⟩
    | cons hr hrules =>
      refine ⟨_, .incorrect (List.cons_ne_nil _ _) hall, ?_⟩
      rw [List.forall_mem_cons] at hall
      rw [Chain.evaluate, result_unresolvable hall.1 hr, result_of_unresolvable hall.2 hrules]

/-- There is a chain unless the compiler stops. Whether it accepts, or takes for the word of a third
party, does not depend on specifiers that cannot be resolved; and where no rule is brought along,
the first one that can be resolved decides. -/
theorem first_resolvable_decides (s : Scope) (specifiers : List String) (text : String)
    (ctx : Context) :
    ((∃ rules, (chain s specifiers).result = .ok rules) ↔
      ∀ t ∈ specifiers, ∀ m, ¬Stops s t m) ∧
    ∀ rules, (chain s specifiers).result = .ok rules →
      (∃ kept, (chain s (specifiers.filter (¬Unresolvable s ·))).result = .ok kept ∧
        ∀ v ∈ [Verdict.accepted, .thirdParty],
          ((Chain.evaluate text ctx rules).result = .ok v ↔
            (Chain.evaluate text ctx kept).result = .ok v)) ∧
      ((∀ t ∈ specifiers, ¬UsesUtil t) → ∃ v, FirstVerdict s text ctx specifiers v ∧
        (Chain.evaluate text ctx rules).result = .ok v) := by
  refine ⟨exists_chain_iff, fun rules hrules => ⟨?_, ?_⟩⟩
  · have hs := exists_chain_iff.1 ⟨rules, hrules⟩
    obtain ⟨kept, hkept⟩ := exists_chain_iff.2 fun t (ht : t ∈ specifiers.filter _) =>
      hs t (List.mem_of_mem_filter ht)
    refine ⟨kept, hkept, fun v hv => ?_⟩
    have hfinal : v.isFinal = true ∧ Verdict.rejected ≠ v := by
      revert v
      decide
    exact result_filter_iff hfinal.1 hfinal.2 hfinal.2 (chain_ok_iff.1 hrules)
      (chain_ok_iff.1 hkept)
  · exact fun hutil => exists_firstVerdict hutil (chain_ok_iff.1 hrules)

def verdict? (s : Scope) (specifiers : List String) (text : String) : Option Verdict :=
  (chain s specifiers).result.toOption.bind fun rules =>
    (Chain.evaluate text ⟨"", none⟩ rules).result.toOption

theorem exists_of_verdict? (h : verdict? s ts text = some v) :
    ∃ rules, (chain s ts).result = .ok rules ∧
      (Chain.evaluate text ⟨"", none⟩ rules).result = .ok v := by
  obtain ⟨rules, hrules, hv⟩ := Option.bind_eq_some_iff.1 h
  exact ⟨rules, exceptToOption_some.1 hrules, exceptToOption_some.1 hv⟩

def decidingSpecifiers : List String := ["{enum#m}", "x{regexp#e}", "a{enum:b|c}", "{enum:ab}"]

theorem decidingSpecifiers_decide :
    ∃ rules, (chain hidingScope decidingSpecifiers).result = .ok rules ∧
      (∀ t ∈ decidingSpecifiers, ¬UsesUtil t) ∧
      FirstVerdict hidingScope "ac" ⟨"", none⟩ decidingSpecifiers .accepted ∧
      (Chain.evaluate "ac" ⟨"", none⟩ rules).result = .ok .accepted := by
  have hverdict : verdict? hidingScope decidingSpecifiers "ac" = some .accepted := by
    decide +kernel
  obtain ⟨rules, hrules, haccepted⟩ := exists_of_verdict? hverdict
  have hutil : ∀ t ∈ decidingSpecifiers, ¬UsesUtil t := by decide +kernel
  obtain ⟨v, hfirst, hresult⟩ :=
    ((first_resolvable_decides hidingScope decidingSpecifiers "ac" ⟨"", none⟩).2 rules hrules).2
      hutil
  rw [haccepted] at hresult
  cases hresult
  exact ⟨rules, hrules, hutil, hfirst, haccepted⟩

def stoppingSpecifiers : List String := ["{regexp:a{4294967295}}", "{enum:a}"]

/-- No chain is made, though none of its rules is brought along and the rest accepts. -/
theorem stoppingSpecifiers_make_no_chain :
    (chain bareScope stoppingSpecifiers).result = .error .overflow ∧
      (∀ t ∈ stoppingSpecifiers, ¬UsesUtil t) ∧
      ∃ rules, (chain bareScope stoppingSpecifiers.tail).result = .ok rules ∧
        (Chain.evaluate "a" ⟨"", none⟩ rules).result = .ok .accepted := by
  have hutil : ∀ t ∈ stoppingSpecifiers, ¬UsesUtil t := by decide +kernel
  have hverdict : verdict? bareScope stoppingSpecifiers.tail "a" = some .accepted := by
    decide +kernel
  have hstops : (chain bareScope stoppingSpecifiers).result.map (fun _ => ()) =
      .error .overflow := by decide +kernel
  exact ⟨exceptMap_error.1 hstops, hutil, exists_of_verdict? hverdict⟩

end Specifier

end Allowlist
