import Allowlist.Rule

namespace Allowlist.Check

def always (v : Verdict) (_ : String) (_ : Context) : Except Failure Verdict := .ok v

def isEventId (text : String) (ctx : Context) : Except Failure Verdict :=
  .ok (if text = ctx.eventId then .accepted else .rejected)

def isSibling (field text : String) (ctx : Context) : Except Failure Verdict :=
  match ctx.data.bind (Entries.get? (.text field)) with
  | some (.text s) => .ok (if text = s then .accepted else .thirdParty)
  | _ => .ok .thirdParty

def startsWith (start text : String) (_ : Context) : Except Failure Verdict :=
  .ok (if start.toList.isPrefixOf text.toList then .accepted else .incorrectRule)

def fails (reason : String) (_ : String) (_ : Context) : Except Failure Verdict := .error ⟨reason⟩

end Allowlist.Check
