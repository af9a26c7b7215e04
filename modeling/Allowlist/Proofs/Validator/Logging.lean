import Allowlist.Proofs.Log.Masking
import Allowlist.Proofs.Validator.Results

namespace Allowlist

open Log

theorem Verdict.eq_of_name {v w : Verdict} (h : v.name = w.name) : v = w := by
  revert h
  cases v <;> cases w <;> decide

namespace Log

def shownNames : List String :=
  ["service", "known_group", "group_version", "verdict", "event", "correlation_id", "group_id",
   "level"]

theorem isSecretName_shownNames : ∀ s ∈ "build" :: shownNames, isSecretName s = false := by
  decide +kernel

theorem isOpen_shownNames {s : String} (h : s ∈ shownNames) : IsOpen (.text s) := by
  have hs := isSecretName_shownNames s (.tail _ h)
  simp only [shownNames, List.mem_cons, List.not_mem_nil, or_false] at h
  rcases h with rfl | rfl | rfl | rfl | rfl | rfl | rfl | rfl <;>
    simp [IsOpen, keyClass, hs, payloadKeys, mask?]

theorem redactEntry_shown {s : String} (h : s ∈ shownNames) (a : Scalar) :
    redactEntry (.text s, .leaf a) = .ok (.text s, .leaf a) := by
  rw [redactEntry_open (isOpen_shownNames h)]
  rfl

theorem redactEntry_build (s : String) :
    redactEntry (.text "build", .text s) = .ok (.text "build", .text (Mask.build.apply s)) := by
  have hk : keyClass (.text "build") = .masked .build := by
    simp [keyClass, isSecretName_shownNames "build" (.head _), payloadKeys, mask?]
  simp [redactEntry, cover?, hk, Value.display, Except.map]

end Log

namespace Notice

def trailer (b : Block) : Entries :=
  [(.text "correlation_id", .text b.correlation), (.text "group_id", .text b.group),
   (.text "level", .text Level.debug.name)]

def refusedEntry (known : Bool) (version build : String) (b : Block) : Entries :=
  (.text "service", .text serviceName) :: (.text "known_group", .leaf (.bool known)) ::
  (.text "group_version", .text version) :: (.text "build", .text (Mask.build.apply build)) ::
  (.text "event", .text "event_group_not_allowed") :: trailer b

def replacedEntry (v : Verdict) (b : Block) : Entries :=
  (.text "service", .text serviceName) :: (.text "verdict", .text v.name) ::
  (.text "event", .text "event_id_replaced") :: trailer b

theorem content_groupRefused (known : Bool) (version build : String) (b : Block) :
    (groupRefused known version build).message.content (some b) =
      .ok (refusedEntry known version build b) := by
  have h : Entries.put (.text "level") (.text Level.debug.name)
      (setDefaults (Context.bound b) (groupRefused known version build).message.entries) =
      (.text "service", .text serviceName) :: (.text "known_group", .leaf (.bool known)) ::
      (.text "group_version", .text version) :: (.text "build", .text build) ::
      (.text "event", .text "event_group_not_allowed") :: trailer b := rfl
  rw [Message.content, redact_eq_mapM]
  refine (congrArg (List.mapM redactEntry) h).trans ?_
  simp (disch := decide) only [refusedEntry, trailer, List.mapM_cons, List.mapM_nil,
    redactEntry_shown, redactEntry_build, exceptOk_bind]
  rfl

theorem content_eventIdReplaced (v : Verdict) (b : Block) :
    (eventIdReplaced v).message.content (some b) = .ok (replacedEntry v b) := by
  have h : Entries.put (.text "level") (.text Level.debug.name)
      (setDefaults (Context.bound b) (eventIdReplaced v).message.entries) =
      replacedEntry v b := rfl
  rw [Message.content, redact_eq_mapM]
  refine (congrArg (List.mapM redactEntry) h).trans ?_
  simp (disch := decide) only [replacedEntry, trailer, List.mapM_cons, List.mapM_nil,
    redactEntry_shown, exceptOk_bind]
  rfl

end Notice

namespace Validator

inductive Decision
  | refused
  | kept (idVerdict : Verdict)
  deriving DecidableEq

variable {v : Validator} {c : Log.Context} {e e' : Event} {d d' : Decision}

def decision? (v : Validator) (e : Event) : Option Decision :=
  if v.refuses e.envelope then some .refused
  else match v.idVerdict e.envelope.groupId e.context with
    | .ok verdict => some (.kept verdict)
    | .error _ => none

theorem decision?_eq_refused :
    v.decision? e = some .refused ↔ v.refuses e.envelope = true := by
  unfold decision?
  split
  · simp [*]
  · split <;> simp [*]

theorem decision?_eq_kept {verdict : Verdict} :
    v.decision? e = some (.kept verdict) ↔
      v.refuses e.envelope = false ∧
        v.idVerdict e.envelope.groupId e.context = .ok verdict := by
  unfold decision?
  split
  · simp [*]
  · split <;> simp [*]

def withFixedId (fixed : String) (c : Log.Context) (es : Entries) : Entries :=
  if (given? c.now.correlation).isNone then
    Entries.put (.text "correlation_id") (.text fixed) es
  else es

/-- What the log tells about an event. -/
def told (fixed : String) (fresh : Nat → String) (c : Log.Context) (v : Validator) (e : Event) :
    List (Except Failure Entries) :=
  (Entry.contents (entries fresh c v e)).map (·.map (withFixedId fixed c))

def shownBlock (id : String) (c : Log.Context) (group : String) : Block :=
  ⟨group, (given? c.now.correlation).getD id⟩

def said (v : Validator) (e : Envelope) (b : Block) : Decision → List Entries
  | .refused =>
    [Notice.refusedEntry ((v.registry.bind (·.group? e.groupId)).isSome) e.groupVersion e.build b]
  | .kept verdict =>
    if v.registry.isNone || verdict = .accepted then [] else [Notice.replacedEntry verdict b]

theorem contents_entries (fresh : Nat → String) (h : v.decision? e = some d) :
    Entry.contents (entries fresh c v e) =
      (v.said e.envelope (shownBlock (fresh c.issued) c e.envelope.groupId) d).map .ok := by
  have hb : (block fresh c e).now.bound =
      some (shownBlock (fresh c.issued) c e.envelope.groupId) := by
    rw [block, Context.now_enter]
    rfl
  cases d with
  | refused =>
    have hn : (v.validate e).notices = [v.refusal e.envelope] := by
      simp [validate, decision?_eq_refused.1 h]
    rw [entries, hn, hb]
    exact congrArg (fun es => [es]) (Notice.content_groupRefused _ _ _ _)
  | kept verdict =>
    obtain ⟨hr, hv⟩ := decision?_eq_kept.1 h
    have hn : (v.validate e).notices = v.idNotices verdict := by
      rw [Event.context] at hv
      simp [validate, hr, hv]
    rw [entries, hn, hb, idNotices, said]
    split
    · rfl
    · exact congrArg (fun es => [es]) (Notice.content_eventIdReplaced _ _)

theorem withFixedId_refusedEntry (known : Bool) (version build fixed id group : String) :
    withFixedId fixed c (Notice.refusedEntry known version build (shownBlock id c group)) =
      Notice.refusedEntry known version build (shownBlock fixed c group) := by
  rw [withFixedId, shownBlock, shownBlock]
  cases given? c.now.correlation <;> rfl

theorem withFixedId_replacedEntry (verdict : Verdict) (fixed id group : String) :
    withFixedId fixed c (Notice.replacedEntry verdict (shownBlock id c group)) =
      Notice.replacedEntry verdict (shownBlock fixed c group) := by
  rw [withFixedId, shownBlock, shownBlock]
  cases given? c.now.correlation <;> rfl

theorem withFixedId_said (fixed id : String) (env : Envelope) (d : Decision) :
    (v.said env (shownBlock id c env.groupId) d).map (withFixedId fixed c) =
      v.said env (shownBlock fixed c env.groupId) d := by
  cases d with
  | refused => exact congrArg (fun es => [es]) (withFixedId_refusedEntry _ _ _ _ _ _)
  | kept verdict =>
    rw [said, said]
    split
    · rfl
    · exact congrArg (fun es => [es]) (withFixedId_replacedEntry _ _ _ _)

theorem told_eq (fixed : String) (fresh : Nat → String) (h : v.decision? e = some d) :
    told fixed fresh c v e =
      (v.said e.envelope (shownBlock fixed c e.envelope.groupId) d).map .ok := by
  rw [told, contents_entries fresh h, ← withFixedId_said fixed (fresh c.issued), List.map_map,
    List.map_map]
  rfl

theorem said_refused_ne (verdict : Verdict) (b : Block) :
    v.said e.envelope b .refused ≠ v.said e'.envelope b (.kept verdict) := by
  intro h
  rw [said, said] at h
  split at h
  · cases h
  · simp [Notice.refusedEntry, Notice.replacedEntry] at h

theorem verdict_eq_of_said_eq {verdict verdict' : Verdict} {b : Block}
    (hv : v.idVerdict e.envelope.groupId e.context = .ok verdict)
    (hv' : v.idVerdict e'.envelope.groupId e'.context = .ok verdict')
    (h : v.said e.envelope b (.kept verdict) = v.said e'.envelope b (.kept verdict')) :
    verdict = verdict' := by
  cases hreg : v.registry with
  | none =>
    rw [idVerdict_unreachable hreg] at hv hv'
    cases hv
    cases hv'
    rfl
  | some r =>
    simp only [said, hreg, Option.isNone_some, Bool.false_or, decide_eq_true_eq] at h
    by_cases ha : verdict = .accepted
    · by_cases ha' : verdict' = .accepted
      · rw [ha, ha']
      · simp [ha, ha'] at h
    · by_cases ha' : verdict' = .accepted
      · simp [ha, ha'] at h
      · simp only [ha, ha', if_false] at h
        exact Verdict.eq_of_name (by simpa [Notice.replacedEntry] using h)

theorem eq_of_said_eq {b : Block} (hd : v.decision? e = some d) (hd' : v.decision? e' = some d')
    (h : v.said e.envelope b d = v.said e'.envelope b d') : d = d' := by
  cases d with
  | refused =>
    cases d' with
    | refused => rfl
    | kept verdict => exact absurd h (said_refused_ne verdict b)
  | kept verdict =>
    cases d' with
    | refused => exact absurd h.symm (said_refused_ne verdict b)
    | kept verdict' =>
      exact congrArg _ (verdict_eq_of_said_eq (decision?_eq_kept.1 hd).2
        (decision?_eq_kept.1 hd').2 h)

/-- Of two events of one version of a group, with builds that begin alike, the log tells the same
just if the decision was the same, whatever else they carry and whatever ids were issued. -/
theorem log_tells_decision {fixed : String} {fresh fresh' : Nat → String}
    (hgroup : e.envelope.groupId = e'.envelope.groupId)
    (hversion : e.envelope.groupVersion = e'.envelope.groupVersion)
    (hbuild : major e.envelope.build = major e'.envelope.build)
    (hd : v.decision? e = some d) (hd' : v.decision? e' = some d') :
    told fixed fresh c v e = told fixed fresh' c v e' ↔ d = d' := by
  rw [told_eq fixed fresh hd, told_eq fixed fresh' hd', hgroup]
  constructor
  · intro h
    exact eq_of_said_eq hd hd' (List.map_injective_iff.2 (fun _ _ => Except.ok.inj) h)
  · rintro rfl
    cases d with
    | refused =>
      have hmask : Mask.build.apply e.envelope.build = Mask.build.apply e'.envelope.build := by
        rw [Mask.apply_build, Mask.apply_build, hbuild]
      simp only [said, Notice.refusedEntry, hgroup, hversion, hmask]
    | kept verdict => rfl

def strangeEvent (n : Nat) : Event :=
  { sampleEvent with
    envelope := { sampleEvent.envelope with
      build := "241." ++ toString n, session := toString n, time := .leaf (.int n) }
    id := "id" ++ toString n
    data := some [(.text (toString n), .leaf (.int n))] }

theorem strangeEvent_told :
    major (strangeEvent 1).envelope.build = major (strangeEvent 2).envelope.build ∧
      sample.decision? (strangeEvent 1) = some (.kept .rejected) ∧
      sample.decision? (strangeEvent 2) = some (.kept .rejected) ∧
      told "id" (fun _ => "a") .empty sample (strangeEvent 1) =
        [.ok (Notice.replacedEntry .rejected ⟨"g", "id"⟩)] ∧
      told "id" (fun _ => "a") .empty sample (strangeEvent 1) =
        told "id" (fun _ => "b") .empty sample (strangeEvent 2) := by
  have hbuild : major (strangeEvent 1).envelope.build = major (strangeEvent 2).envelope.build := by
    decide +kernel
  have hd : sample.decision? (strangeEvent 1) = some (.kept .rejected) := by decide +kernel
  have hd' : sample.decision? (strangeEvent 2) = some (.kept .rejected) := by decide +kernel
  have hgroup : (strangeEvent 1).envelope.groupId = (strangeEvent 2).envelope.groupId := rfl
  have hversion : (strangeEvent 1).envelope.groupVersion =
      (strangeEvent 2).envelope.groupVersion := rfl
  exact ⟨hbuild, hd, hd', told_eq "id" _ hd,
    (log_tells_decision hgroup hversion hbuild hd hd').2 rfl⟩

end Validator

end Allowlist
