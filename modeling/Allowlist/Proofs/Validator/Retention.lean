import Allowlist.Proofs.Registry
import Allowlist.Proofs.RuleSet.Retention
import Allowlist.Proofs.Validator.Calls

namespace Allowlist

theorem Registry.Reachable.rules?_of_accepts {reg : Registry} (h : reg.Reachable)
    {id version build : String} (ha : reg.accepts id version build = true) :
    ∃ rules, reg.rules? id = some rules := by
  rw [accepts, Option.any_eq_true] at ha
  obtain ⟨g, hg, _⟩ := ha
  obtain ⟨rules, hrules⟩ := h.rules hg
  exact ⟨rules, by rw [rules?, hg]; exact hrules⟩

namespace Validator

variable {v : Validator} {e : Event}

theorem rules?_of_not_refuses {reg : Registry} (hv : v.registry = some reg) (hr : reg.Reachable)
    (hn : v.refuses e.envelope = false) : ∃ rules, v.rules? e.envelope.groupId = some rules := by
  rw [refuses, hv, Option.any_some, Bool.not_eq_false'] at hn
  rw [rules?, hv]
  exact hr.rules?_of_accepts hn

theorem result_of_checkEntries_error {verdict : Verdict} {fault : Fault}
    (hn : v.refuses e.envelope = false)
    (hi : v.idVerdict e.envelope.groupId e.context = .ok verdict)
    (hc : v.checkEntries e.envelope.groupId e.context = .error fault) :
    (v.validate e).result = .error fault := by
  rw [validate_result, hn, hi, hc]
  rfl

theorem result_of_not_writes {rules : RuleSet} {name : String} {x : Value}
    (hrules : v.rules? e.envelope.groupId = some rules) (hn : v.refuses e.envelope = false)
    (hd : Entries.Named (e.data.getD [])) (hf : ∀ c ∈ v.calls e, c.fails = false)
    (hx : (.text name, x) ∈ e.data.getD []) (hnot : ¬rules.Writes name x) :
    (v.validate e).result = .error (.rule ⟨Text.digitLimit ""⟩) := by
  obtain ⟨verdict, hi, ⟨-, hw⟩ | hc | ⟨hc, -⟩⟩ := event_cases hrules hn hf
  · exact absurd (hw _ hx name rfl) hnot
  · exact absurd hc (checkEntries_ne_unnamed hd)
  · exact result_of_checkEntries_error hn hi hc

/-- No leaf that is owed is lost, if the names of the data are kept apart and no rule fails; but
nothing is recorded if rules govern a number that is too long to be written. -/
theorem validate_retains {reg : Registry} (hv : v.registry = some reg) (hr : reg.Reachable)
    (hn : v.refuses e.envelope = false) (ha : (Value.map (e.data.getD [])).Apart)
    (hf : ∀ c ∈ v.calls e, c.fails = false) :
    ∃ rules, v.rules? e.envelope.groupId = some rules ∧
      ((∀ name x, (.text name, x) ∈ e.data.getD [] → rules.Writes name x) →
        ∃ r, (v.validate e).result = .ok (some r) ∧
          ∀ name x pos y, (.text name, x) ∈ e.data.getD [] →
            rules.Owed e.context name x pos y →
            (Value.map (r.data.getD [])).at? ((Step.key (.text name) :: pos).map Step.escape) =
              some y.escape) ∧
      ((∃ name x, (.text name, x) ∈ e.data.getD [] ∧ ¬rules.Writes name x) →
        (v.validate e).result = .error (.rule ⟨Text.digitLimit ""⟩)) := by
  obtain ⟨rules, hrules⟩ := rules?_of_not_refuses hv hr hn
  have hd : Entries.Named (e.data.getD []) := ha.entries.named
  refine ⟨rules, hrules, fun hw => ?_, fun ⟨name, x, hx, hnot⟩ =>
    result_of_not_writes hrules hn hd hf hx hnot⟩
  obtain ⟨verdict, hi, ⟨⟨fs, hc⟩, -⟩ | hc | ⟨-, ⟨k, x⟩, hx, hnot⟩⟩ := event_cases hrules hn hf
  · have fields := (checkEntries_of_named hrules hd).1 hc
    have named : Entries.Named fs := by
      intro f hf
      obtain ⟨e', he', hoe⟩ := fields.exists_left hf
      obtain ⟨_, _, _, _, rfl⟩ := hoe.of_isText (hd _ he')
      rfl
    refine ⟨recorded e (recordedId e.id verdict) _, validate_ok_some.2
      ⟨hn, verdict, fs, _, hi, hc, Entries.escape?_of_named named.ofList, rfl⟩, ?_⟩
    intro name x pos y hx howed
    obtain ⟨_, hs, hne⟩ := ha.entries.name _ hx
    cases hs
    obtain ⟨_, _, hoe⟩ := fields.exists_right hx
    obtain ⟨_, _, hs, hg, _⟩ := hoe.of_isText rfl
    cases hs
    obtain ⟨hname, hat⟩ := hg.retains hne (ha.entry hx) howed
    rw [List.map_cons, ← hat]
    exact Value.at?_map _ (RuleSet.get?_of_kept (p := id) ha.entries fields hx hg hname)
  · exact absurd hc (checkEntries_ne_unnamed hd)
  · obtain ⟨name, rfl⟩ := Key.isText_iff.1 (hd _ hx)
    refine absurd (fun _ hk => ?_) hnot
    cases hk
    exact hw name x hx

theorem apart_samplePayload : samplePayload.Apart := by
  have pair : (Value.tuple [.null, .text "w"]).Apart :=
    .seq rfl (by simp [Value.All.null, Value.All.leaf])
  have names : Escape.name "k" = "k" ∧ Escape.name "n" = "n" ∧ Escape.name "x" = "x" := by decide
  refine .map ⟨?_, ?_⟩ ?_
  · simp [undefinedName, Verdict.mark]
  · simp [Key.escape, names]
  · simp [Value.All.leaf, pair]

theorem apart_sampleEvent : (Value.map (sampleEvent.data.getD [])).Apart := by
  refine .map ⟨?_, ?_⟩ ?_
  · simp [sampleEvent, undefinedName, Verdict.mark]
  · simp [sampleEvent]
  · simp [sampleEvent, apart_samplePayload]

theorem short_samplePayload : samplePayload.Short := by
  simp [Value.Short, samplePayload, Value.leaves, Value.leavesUnder, Value.leavesAll, Leaf.below]
  decide

theorem sample_answers (e : Event) (hg : e.envelope.groupId = "g") :
    ∀ c ∈ sample.calls e, c.fails = false := by
  apply calls_answered
  rw [hg]
  rintro _ ⟨⟩
  constructor
  · simp [RuleSet.make, Chain.Static, Rule.isCustom]
  · simp [RuleSet.make, Chain.Static, Rule.isCustom]

theorem sampleEvent_retained : ∃ r, (sample.validate sampleEvent).result = .ok (some r) ∧
    (Value.map (r.data.getD [])).at? [.key (.text "a"), .key (.text "k")] = some (.text "v") := by
  have reachable : Registry.sample.Reachable := Registry.reachable_sample
  obtain ⟨rules, hrules, hkept, -⟩ := validate_retains (v := sample) rfl reachable rfl
    apart_sampleEvent (sample_answers _ rfl)
  have writes : ∀ name x, (.text name, x) ∈ sampleEvent.data.getD [] → rules.Writes name x := by
    simp [sampleEvent, RuleSet.writes_of_short short_samplePayload]
  obtain ⟨r, hr, hat⟩ := hkept writes
  refine ⟨r, hr, ?_⟩
  cases hrules
  exact hat "a" _ [.key (.text "k")] (.text "v") (.head _)
    (.inl (.entry (.head _) (.accepted (by decide) rfl rfl)))

def longPayload : Value := .map [(.text "k", .list [.text "v", .leaf (.int longNumber)])]

def longEvent : Event := { sampleEvent with data := some [(.text "a", longPayload)] }

theorem apart_longEvent : (Value.map (longEvent.data.getD [])).Apart := by
  have list : (Value.list [.text "v", .leaf (.int longNumber)]).Apart :=
    .seq rfl (by simp [Value.All.leaf])
  have payload : longPayload.Apart := by
    refine .map ⟨?_, ?_⟩ ?_
    · simp [undefinedName, Verdict.mark]
    · simp
    · simp [list]
  refine .map ⟨?_, ?_⟩ ?_
  · simp [longEvent, undefinedName, Verdict.mark]
  · simp [longEvent]
  · simp [longEvent, payload]

/-- The text is owed, and nothing is recorded. -/
theorem longEvent_is_lost :
    sample.refuses longEvent.envelope = false ∧ (Value.map (longEvent.data.getD [])).Apart ∧
      (∀ c ∈ sample.calls longEvent, c.fails = false) ∧
      (∃ rules, sample.rules? "g" = some rules ∧ rules.Owed longEvent.context "a" longPayload
        [.key (.text "k"), .index 0] (.text "v")) ∧
      (sample.validate longEvent).result = .error (.rule ⟨Text.digitLimit ""⟩) := by
  have answered := sample_answers longEvent rfl
  have hrules : sample.rules? "g" =
      some (.make [.enum ["e"]] [("a.k", [.enum ["v"]])] ["a.x"]) := rfl
  have owed : RuleSet.Owed (.make [.enum ["e"]] [("a.k", [.enum ["v"]])] ["a.x"])
      longEvent.context "a" longPayload [.key (.text "k"), .index 0] (.text "v") :=
    .inl (.entry (.head _) (.item rfl rfl (.accepted (by decide) rfl rfl)))
  refine ⟨rfl, apart_longEvent, answered, ⟨_, hrules, owed⟩, ?_⟩
  refine result_of_not_writes hrules rfl apart_longEvent.entries.named answered (.head _) ?_
  intro writes
  obtain ⟨t, ht⟩ := writes ⟨[.text "k"], .int longNumber⟩ (.tail _ (.head _)) (by decide)
  cases ruleText_longNumber.symm.trans ht

end Validator

end Allowlist
