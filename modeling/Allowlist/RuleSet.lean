import Allowlist.Chain
import Allowlist.Named
import Allowlist.Rule.Display

namespace Allowlist

/-- `declared` tells a group that declares rules, even if none, from one that does not. -/
structure RuleSet where
  eventIdRules : Chain
  fieldRules : Named Chain
  excluded : List String
  declared : Bool

namespace RuleSet

def empty : RuleSet := ⟨[], [], [], false⟩

/-- On an excluded path the declared rules have no effect. -/
def make (eventIdRules : Chain) (fieldRules : Named Chain) (excluded : List String) :
    RuleSet :=
  { eventIdRules
    fieldRules := fieldRules.map fun (path, rules) =>
      (path, if excluded.contains path then [Rule.acceptAll] else rules)
    excluded
    declared := true }

def isExcluded (r : RuleSet) (path : String) : Bool := r.excluded.contains path

def chainAt (r : RuleSet) (path : String) : Chain := (r.fieldRules.lookup path).getD []

def display (r : RuleSet) : String :=
  "GroupRuleSet(event_id_rules=" ++ toString r.eventIdRules.length ++ ", event_data_rules=" ++
    quotedList (Text.sortDistinct (r.fieldRules.map (·.1))) ++ ", excluded_fields=" ++
    quotedList (Text.sortDistinct r.excluded) ++ ")"

def checkEventId (r : RuleSet) (ctx : Context) : Run Verdict :=
  if isMark ctx.eventId then pure .accepted
  else Chain.evaluate ctx.eventId ctx r.eventIdRules

def checkEventIdIn (rules : Option RuleSet) (ctx : Context) : Run Verdict :=
  match rules with
  | none => pure .undefinedRule
  | some r => if r.eventIdRules.isEmpty then pure .undefinedRule else r.checkEventId ctx

end RuleSet

end Allowlist
