import Allowlist.Event
import Allowlist.Registry
import Allowlist.RuleSet.Unnamed

namespace Allowlist

structure Validator where
  registry : Option Registry
  systemEvents : List String

namespace Validator

/-- Why an event was not validated: a rule failed, or a field of the data has no name. -/
inductive Fault
  | rule (f : Failure)
  | unnamed
  deriving DecidableEq

structure Outcome where
  result : Except Fault (Option Event)
  notices : List Notice

def refuses (v : Validator) (e : Envelope) : Bool :=
  v.registry.any fun r => !r.accepts e.groupId e.groupVersion e.build

def refusal (v : Validator) (e : Envelope) : Notice :=
  .groupRefused ((v.registry.bind (·.group? e.groupId)).isSome) e.groupVersion e.build

def idVerdict (v : Validator) (group : String) (ctx : Context) : Except Failure Verdict :=
  match v.registry with
  | none => .ok .unreachableMetadata
  | some r =>
    if v.systemEvents.contains ctx.eventId then .ok .accepted
    else (RuleSet.checkEventIdIn (r.rules? group) ctx).result

def recordedId (id : String) (verdict : Verdict) : String :=
  if verdict = .accepted then id else verdict.mark

def idNotices (v : Validator) (verdict : Verdict) : List Notice :=
  if v.registry.isNone || verdict = .accepted then [] else [.eventIdReplaced verdict]

def markedEntry (v : Verdict) : Key × Value := (.text v.mark, v.value)

def checkEntry (rules : RuleSet) (ctx : Context) : Key × Value → Except Fault (Key × Value)
  | (.text name, x) =>
    match (rules.checkField ctx name x).result with
    | .ok f => .ok (.text f.name, f.value)
    | .error e => .error (.rule e)
  | (k, x) =>
    match Unnamed.check? k x with
    | some e => .ok e
    | none => .error .unnamed

def checkEntries (v : Validator) (group : String) (ctx : Context) : Except Fault Entries :=
  let es := ctx.data.getD []
  match v.registry with
  | none => .ok (es.map fun _ => markedEntry .unreachableMetadata)
  | some r =>
    match r.rules? group with
    | none => .ok (es.map fun _ => markedEntry .undefinedRule)
    | some rules => es.mapM (checkEntry rules ctx)

def record (e : Event) (id : String) (data : Entries) : Except Fault (Option Event) :=
  match { e with id, data := some (Entries.ofList data) }.escape? with
  | some r => .ok (some r)
  | none => .error .unnamed

def validate (v : Validator) (e : Event) : Outcome :=
  let group := e.envelope.groupId
  let ctx : Context := ⟨e.id, e.data⟩
  if v.refuses e.envelope then ⟨.ok none, [v.refusal e.envelope]⟩
  else match v.idVerdict group ctx with
    | .error f => ⟨.error (.rule f), []⟩
    | .ok verdict =>
      ⟨v.checkEntries group ctx >>= record e (recordedId e.id verdict), v.idNotices verdict⟩

def block (fresh : Nat → String) (c : Log.Context) (e : Event) : Log.Context :=
  c.enter fresh e.envelope.groupId none

def entries (fresh : Nat → String) (c : Log.Context) (v : Validator) (e : Event) :
    List Log.Entry :=
  (v.validate e).notices.map (Notice.entry (block fresh c e).now.bound)

def contextAfter (fresh : Nat → String) (c : Log.Context) (e : Event) : Log.Context :=
  (block fresh c e).exit

def update (v : Validator) (d : Descriptors) : Building Validator :=
  match v.registry with
  | none => pure v
  | some r => return { v with registry := some (← r.update d) }

end Validator

end Allowlist
