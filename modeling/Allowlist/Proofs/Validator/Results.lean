import Allowlist.Proofs.Escape.Values
import Allowlist.Proofs.Except
import Allowlist.Proofs.Registry
import Allowlist.Proofs.RuleSet.Results
import Allowlist.Validator

namespace Allowlist

def Event.context (e : Event) : Context := ⟨e.id, e.data⟩

namespace RuleSet

variable {ctx : Context} {r : RuleSet}

theorem checkEventIdIn_undeclared (h : r.eventIdRules = []) :
    checkEventIdIn (some r) ctx = pure .undefinedRule := by
  simp [checkEventIdIn, h]

theorem checkEventIdIn_mark (h : r.eventIdRules ≠ []) (hm : isMark ctx.eventId = true) :
    checkEventIdIn (some r) ctx = pure .accepted := by
  simp [checkEventIdIn, checkEventId, h, hm]

theorem checkEventIdIn_chain (h : r.eventIdRules ≠ []) (hm : isMark ctx.eventId = false) :
    checkEventIdIn (some r) ctx = Chain.evaluate ctx.eventId ctx r.eventIdRules := by
  simp [checkEventIdIn, checkEventId, h, hm]

end RuleSet

namespace Validator

variable {v : Validator} {e r : Event}

def recorded (e : Event) (id : String) (data : Entries) : Event :=
  { envelope := e.envelope.escape
    id := Escape.value id
    data := some data
    state := e.state
    count := e.count }

theorem record_ok {id : String} {es : Entries} {o : Option Event} :
    record e id es = .ok o ↔
      ∃ data, Entries.escape? (Entries.ofList es) = some data ∧ o = some (recorded e id data) := by
  unfold record Event.escape?
  cases h : Entries.escape? (Entries.ofList es) with
  | none => simp [h]
  | some data => simp [h, recorded, @eq_comm _ o]

theorem validate_result : (v.validate e).result =
    if v.refuses e.envelope then .ok none
    else match v.idVerdict e.envelope.groupId e.context with
      | .error f => .error (.rule f)
      | .ok verdict => v.checkEntries e.envelope.groupId e.context >>=
          record e (recordedId e.id verdict) := by
  by_cases hr : v.refuses e.envelope = true
  · simp [validate, hr]
  · cases hi : v.idVerdict e.envelope.groupId ⟨e.id, e.data⟩ with
    | error f => simp [validate, Event.context, hr, hi]
    | ok verdict => simp [validate, Event.context, hr, hi]

theorem validate_ok_some : (v.validate e).result = .ok (some r) ↔
    v.refuses e.envelope = false ∧ ∃ verdict es data,
      v.idVerdict e.envelope.groupId e.context = .ok verdict ∧
      v.checkEntries e.envelope.groupId e.context = .ok es ∧
      Entries.escape? (Entries.ofList es) = some data ∧
      r = recorded e (recordedId e.id verdict) data := by
  rw [validate_result]
  by_cases hr : v.refuses e.envelope = true
  · simp [hr]
  cases hi : v.idVerdict e.envelope.groupId e.context with
  | error f => simp [hr]
  | ok verdict => simp [hr, exceptBind_ok, record_ok]

def rules? (v : Validator) (group : String) : Option RuleSet :=
  v.registry.bind (·.rules? group)

theorem idVerdict_unreachable {g : String} {ctx : Context} (hv : v.registry = none) :
    v.idVerdict g ctx = .ok .unreachableMetadata := by
  simp [idVerdict, hv]

theorem idVerdict_of_mem {g : String} {ctx : Context} {reg : Registry}
    (hv : v.registry = some reg) (hs : ctx.eventId ∈ v.systemEvents) :
    v.idVerdict g ctx = .ok .accepted := by
  simp [idVerdict, hv, hs]

theorem idVerdict_of_not_mem {g : String} {ctx : Context} {reg : Registry}
    (hv : v.registry = some reg) (hs : ctx.eventId ∉ v.systemEvents) :
    v.idVerdict g ctx = (RuleSet.checkEventIdIn (v.rules? g) ctx).result := by
  simp [idVerdict, rules?, hv, hs]

theorem checkEntries_marked {g : String} (h : v.rules? g = none) :
    ∃ u, ∀ ctx, v.checkEntries g ctx = .ok ((ctx.data.getD []).map fun _ => markedEntry u) := by
  cases hv : v.registry with
  | none => exact ⟨.unreachableMetadata, fun ctx => by simp [checkEntries, hv]⟩
  | some reg =>
    have hr : reg.rules? g = none := by simpa [rules?, hv] using h
    exact ⟨.undefinedRule, fun ctx => by simp [checkEntries, hv, hr]⟩

theorem checkEntries_ruled {g : String} {ctx : Context} {rules : RuleSet}
    (h : v.rules? g = some rules) :
    v.checkEntries g ctx = (ctx.data.getD []).mapM (checkEntry rules ctx) := by
  obtain ⟨reg, hv, hr⟩ := Option.bind_eq_some_iff.1 h
  simp [checkEntries, hv, hr]

theorem checkEntry_named {rules : RuleSet} {ctx : Context} {name : String} {x : Value}
    {f : Key × Value} : checkEntry rules ctx (.text name, x) = .ok f ↔
      ∃ g, rules.Checks ctx name name x g ∧ f = (.text g.name, g.value) := by
  unfold checkEntry RuleSet.Checks RuleSet.checkField
  cases h : (rules.check ctx name name x).result with
  | error e => simp [h]
  | ok g => simp [h, @eq_comm _ f]

theorem checkEntry_unnamed {rules : RuleSet} {ctx : Context} {k : Key} {x : Value}
    {f : Key × Value} (hk : k.isText = false) :
    checkEntry rules ctx (k, x) = .ok f ↔ Unnamed.check? k x = some f := by
  unfold checkEntry
  split
  · rename_i he
    cases he
    cases hk
  · rename_i he
    cases he
    cases h : Unnamed.check? k x with
    | none => simp
    | some g => simp

theorem checkEntries_of_named {g : String} {ctx : Context} {rules : RuleSet} {fs : Entries}
    (h : v.rules? g = some rules) (hn : Entries.Named (ctx.data.getD [])) :
    v.checkEntries g ctx = .ok fs ↔ List.Forall₂
      (RuleSet.OnEntry fun k => rules.Checks ctx k k) (ctx.data.getD []) fs := by
  have entry : ∀ e ∈ ctx.data.getD [], ∀ f, checkEntry rules ctx e = .ok f ↔
      RuleSet.OnEntry (fun k => rules.Checks ctx k k) e f := by
    intro e he f
    obtain ⟨k, x⟩ := e
    obtain ⟨name, rfl⟩ := Key.isText_iff.1 (hn _ he)
    rw [checkEntry_named]
    constructor
    · rintro ⟨g, hg, rfl⟩
      exact .named hg
    · intro hf
      obtain ⟨_, g, hk, hg, rfl⟩ := hf.of_isText rfl
      cases hk
      exact ⟨g, hg, rfl⟩
  rw [checkEntries_ruled h, mapM_ok]
  constructor
  · intro hfs
    exact ((List.forall₂_and_left _ _).2 ⟨fun _ he => he, hfs⟩).imp fun e f h =>
      (entry e h.1 f).1 h.2
  · intro hfs
    exact ((List.forall₂_and_left _ _).2 ⟨fun _ he => he, hfs⟩).imp fun e f h =>
      (entry e h.1 f).2 h.2

theorem checkEntry_ne_unnamed {rules : RuleSet} {ctx : Context} {x : Key × Value}
    (hk : x.1.isText = true) : checkEntry rules ctx x ≠ .error .unnamed := by
  obtain ⟨k, y⟩ := x
  obtain ⟨name, rfl⟩ := Key.isText_iff.1 hk
  unfold checkEntry
  cases h : (rules.checkField ctx name y).result <;> simp [h]

theorem checkEntries_ne_unnamed {g : String} {ctx : Context}
    (hn : Entries.Named (ctx.data.getD [])) : v.checkEntries g ctx ≠ .error .unnamed := by
  intro h
  cases hr : v.rules? g with
  | none =>
    obtain ⟨u, hu⟩ := checkEntries_marked hr
    rw [hu] at h
    cases h
  | some rules =>
    rw [checkEntries_ruled hr] at h
    obtain ⟨before, x, after, -, hes, -, hc⟩ := mapM_error h
    exact checkEntry_ne_unnamed (hn x (by simp [hes])) hc

def sample : Validator := ⟨some Registry.sample, []⟩

def samplePayload : Value :=
  .map [(.text "k", .text "v"), (.text "n", .leaf (.int 5)),
    (.text "x", .tuple [.null, .text "w"])]

def sampleEvent : Event where
  envelope := ⟨"s", "1", "b", .leaf (.int 0), "g", "1", "1"⟩
  id := "e"
  data := some [(.text "a", samplePayload)]
  state := false
  count := .leaf (.int 1)

def sampleRecorded : Event :=
  { sampleEvent with
    data := some [(.text "a", .map [(.text "k", .text "v"),
      (.text undefinedName, Verdict.undefinedRule.value),
      (.text "x", .list [.null, .text "w"])])] }

theorem validate_sampleEvent : (sample.validate sampleEvent).result = .ok (some sampleRecorded) :=
  rfl

end Validator

end Allowlist
