import Allowlist.Proofs.RuleSet.Static
import Allowlist.Proofs.Validator.Results

namespace Allowlist

theorem RuleSet.checkEventIdIn_follows (rules : Option RuleSet) (ctx : Context) :
    ∃ calls : List Call, (checkEventIdIn rules ctx).Follows (calls.map .call) ∧
      ∀ c ∈ calls, ∃ r, rules = some r ∧ c.rule ∈ r.eventIdRules := by
  cases rules with
  | none => exact ⟨[], .pure, by simp⟩
  | some r =>
    by_cases hnone : r.eventIdRules = []
    · rw [checkEventIdIn_undeclared hnone]
      exact ⟨[], .pure, by simp⟩
    by_cases hmark : isMark ctx.eventId = true
    · rw [checkEventIdIn_mark hnone hmark]
      exact ⟨[], .pure, by simp⟩
    · rw [checkEventIdIn_chain hnone (by simpa using hmark)]
      exact ⟨_, Chain.evaluateFrom_follows _ _ _ _,
        fun c hc => ⟨r, rfl, (Chain.rule_mem_of_mem_calls hc).1⟩⟩

namespace Validator

variable {v : Validator} {e : Event} {rules : RuleSet} {ctx : Context} {es : Entries} {g : String}

def idRun (v : Validator) (group : String) (ctx : Context) : Run Verdict :=
  match v.registry with
  | none => pure .unreachableMetadata
  | some r =>
    if v.systemEvents.contains ctx.eventId then pure .accepted
    else RuleSet.checkEventIdIn (r.rules? group) ctx

def entryCalls (rules : RuleSet) (ctx : Context) (x : Key × Value) : List Call :=
  match x.1.text? with
  | some name => (rules.checkField ctx name x.2).calls
  | none => []

def fieldCalls (rules : RuleSet) (ctx : Context) : Entries → List Call
  | [] => []
  | x :: es =>
    match checkEntry rules ctx x with
    | .ok _ => entryCalls rules ctx x ++ fieldCalls rules ctx es
    | .error _ => entryCalls rules ctx x

def calls (v : Validator) (e : Event) : List Call :=
  if v.refuses e.envelope then []
  else
    let run := v.idRun e.envelope.groupId e.context
    match run.result, v.rules? e.envelope.groupId with
    | .ok _, some rules => run.calls ++ fieldCalls rules e.context (e.data.getD [])
    | _, _ => run.calls

theorem idVerdict_eq (v : Validator) (group : String) (ctx : Context) :
    v.idVerdict group ctx = (v.idRun group ctx).result := by
  unfold idVerdict idRun
  cases v.registry with
  | none => rfl
  | some r =>
    dsimp only
    split <;> rfl

theorem idRun_follows (v : Validator) (group : String) (ctx : Context) :
    ∃ calls : List Call, (v.idRun group ctx).Follows (calls.map .call) ∧
      ∀ c ∈ calls, ∃ rules, v.rules? group = some rules ∧ c.rule ∈ rules.eventIdRules := by
  unfold idRun rules?
  cases v.registry with
  | none => exact ⟨[], .pure, by simp⟩
  | some r =>
    dsimp only
    split
    · exact ⟨[], .pure, by simp⟩
    · exact RuleSet.checkEventIdIn_follows _ _

theorem exists_idVerdict (h : ∀ c ∈ (v.idRun g ctx).calls, c.fails = false) :
    ∃ verdict, (v.idRun g ctx).result = .ok verdict := by
  obtain ⟨calls, follows, -⟩ := idRun_follows v g ctx
  cases follows.ok_or_lapse h with
  | inl h => exact h.1
  | inr h =>
    obtain ⟨_, _, hlapse⟩ := h
    simp at hlapse

theorem mem_calls {c : Call} (h : c ∈ v.calls e) :
    c ∈ (v.idRun e.envelope.groupId e.context).calls ∨
      ∃ rules, v.rules? e.envelope.groupId = some rules ∧
        c ∈ fieldCalls rules e.context (e.data.getD []) := by
  unfold calls at h
  split at h
  · cases h
  · dsimp only at h
    split at h
    · next hrules => exact (List.mem_append.1 h).imp id fun h => ⟨_, hrules, h⟩
    · exact .inl h

theorem fieldCalls_answered (h : rules.NeverFails ctx) :
    ∀ c ∈ fieldCalls rules ctx es, c.fails = false := by
  have entry : ∀ x, ∀ c ∈ entryCalls rules ctx x, c.fails = false := by
    intro x c hc
    unfold entryCalls at hc
    split at hc
    · exact h.calls c hc
    · cases hc
  induction es with
  | nil => simp [fieldCalls]
  | cons x es ih =>
    intro c hc
    unfold fieldCalls at hc
    split at hc
    · exact (List.mem_append.1 hc).elim (entry x c) (ih c)
    · exact entry x c hc

theorem calls_answered (h : ∀ rules, v.rules? e.envelope.groupId = some rules → rules.Static) :
    ∀ c ∈ v.calls e, c.fails = false := by
  intro c hc
  obtain hid | ⟨rules, hrules, hfield⟩ := mem_calls hc
  · obtain ⟨calls, follows, hmem⟩ := idRun_follows v e.envelope.groupId e.context
    obtain ⟨rules, hrules, hrule⟩ := hmem c (by simpa using follows.mem_plan hid)
    obtain ⟨u, hu⟩ := Rule.neverFails ((h rules hrules).eventId _ hrule) c.context c.text
    exact Call.fails_of_ok hu
  · exact fieldCalls_answered (h rules hrules).neverFails c hfield

def EntryWrites (rules : RuleSet) (x : Key × Value) : Prop :=
  ∀ name, x.1 = .text name → rules.Writes name x.2

theorem entry_cases {x : Key × Value} (h : ∀ c ∈ entryCalls rules ctx x, c.fails = false) :
    EntryWrites rules x ∧ (∃ f, checkEntry rules ctx x = .ok f) ∨
      EntryWrites rules x ∧ checkEntry rules ctx x = .error .unnamed ∨
      ¬EntryWrites rules x ∧ checkEntry rules ctx x = .error (.rule ⟨Text.digitLimit ""⟩) := by
  obtain ⟨k, y⟩ := x
  by_cases hk : k.isText = true
  · obtain ⟨name, rfl⟩ := Key.isText_iff.1 hk
    have writes : EntryWrites rules (.text name, y) ↔ rules.Writes name y := by
      simp [EntryWrites]
    rw [writes]
    cases RuleSet.checks_or_fails name name y h with
    | inl hok =>
      obtain ⟨⟨f, hf⟩, hw⟩ := hok
      exact .inl ⟨hw, _, checkEntry_named.2 ⟨f, hf, rfl⟩⟩
    | inr hlimit =>
      obtain ⟨hr, hw⟩ := hlimit
      exact .inr (.inr ⟨hw, by rw [checkEntry, RuleSet.checkField, hr]⟩)
  · rw [Bool.not_eq_true] at hk
    have writes : EntryWrites rules (k, y) := by
      rintro name rfl
      cases hk
    cases hc : Unnamed.check? k y with
    | some f => exact .inl ⟨writes, f, (checkEntry_unnamed hk).2 hc⟩
    | none =>
      refine .inr (.inl ⟨writes, ?_⟩)
      rw [checkEntry, hc]
      rintro name rfl
      cases hk

theorem fields_cases (h : ∀ c ∈ fieldCalls rules ctx es, c.fails = false) :
    (∃ fs, es.mapM (checkEntry rules ctx) = .ok fs) ∧ (∀ x ∈ es, EntryWrites rules x) ∨
      es.mapM (checkEntry rules ctx) = .error .unnamed ∨
      es.mapM (checkEntry rules ctx) = .error (.rule ⟨Text.digitLimit ""⟩) ∧
        ∃ x ∈ es, ¬EntryWrites rules x := by
  induction es with
  | nil => exact .inl ⟨⟨[], rfl⟩, by simp⟩
  | cons x es ih =>
    have here : ∀ c ∈ entryCalls rules ctx x, c.fails = false := by
      intro c hc
      apply h
      unfold fieldCalls
      split
      · exact List.mem_append_left _ hc
      · exact hc
    rw [List.mapM_cons]
    obtain ⟨hw, f, hf⟩ | ⟨hw, hf⟩ | ⟨hw, hf⟩ := entry_cases here
    · have later : ∀ c ∈ fieldCalls rules ctx es, c.fails = false := by
        intro c hc
        apply h
        rw [fieldCalls, hf]
        exact List.mem_append_right _ hc
      obtain ⟨⟨fs, hfs⟩, hws⟩ | hfs | ⟨hfs, x', hx', hw'⟩ := ih later
      · exact .inl ⟨⟨f :: fs, by rw [hf, hfs]; rfl⟩, List.forall_mem_cons.2 ⟨hw, hws⟩⟩
      · exact .inr (.inl (by rw [hf, hfs]; rfl))
      · exact .inr (.inr ⟨by rw [hf, hfs]; rfl, x', .tail _ hx', hw'⟩)
    · exact .inr (.inl (by rw [hf]; rfl))
    · exact .inr (.inr ⟨by rw [hf]; rfl, x, .head _, hw⟩)

theorem event_cases (hrules : v.rules? e.envelope.groupId = some rules)
    (hn : v.refuses e.envelope = false) (hf : ∀ c ∈ v.calls e, c.fails = false) :
    ∃ verdict, v.idVerdict e.envelope.groupId e.context = .ok verdict ∧
      ((∃ fs, v.checkEntries e.envelope.groupId e.context = .ok fs) ∧
          (∀ x ∈ e.data.getD [], EntryWrites rules x) ∨
        v.checkEntries e.envelope.groupId e.context = .error .unnamed ∨
        v.checkEntries e.envelope.groupId e.context = .error (.rule ⟨Text.digitLimit ""⟩) ∧
          ∃ x ∈ e.data.getD [], ¬EntryWrites rules x) := by
  simp only [calls, hn, Bool.false_eq_true, if_false, hrules] at hf
  have hid : ∀ c ∈ (v.idRun e.envelope.groupId e.context).calls, c.fails = false := by
    intro c hc
    apply hf
    split
    · exact List.mem_append_left _ hc
    · exact hc
  obtain ⟨verdict, hverdict⟩ := exists_idVerdict hid
  rw [hverdict] at hf
  refine ⟨verdict, (idVerdict_eq ..).trans hverdict, ?_⟩
  rw [checkEntries_ruled hrules]
  exact fields_cases fun c hc => hf c (List.mem_append_right _ hc)

end Validator

end Allowlist
