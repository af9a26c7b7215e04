import Allowlist.RuleSet.Walk

namespace Allowlist.Unnamed

def collapse (k : Key) (names : List Key) : Key :=
  if allUndefined names then .text undefinedName else k

mutual
/-- The entry that is recorded. There is none where a field inside would need a path. -/
def check? (k : Key) : Value → Option (Key × Value)
  | .null => some (k, Verdict.rejected.value)
  | .leaf s =>
    if (Value.leaf s).isMark then some (k, .leaf s)
    else some (.text undefinedName, Verdict.undefinedRule.value)
  | .list vs => (checkAll? k vs).map fun es => (collapse k (es.map (·.1)), .list (es.map (·.2)))
  | .tuple vs => (checkAll? k vs).map fun es => (collapse k (es.map (·.1)), .list (es.map (·.2)))
  | .map es =>
    if es.any (·.1.isText) then none
    else some (k, .map (es.map fun e => (e.1, Verdict.rejected.value)))

def checkAll? (k : Key) : List Value → Option Entries
  | [] => some []
  | v :: vs => do return (← check? k v) :: (← checkAll? k vs)
end

end Allowlist.Unnamed
