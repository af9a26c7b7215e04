import Allowlist.Descriptor

namespace Allowlist

/-- What a service brings along: rules of its own, paths that it does not validate, and the names of
characters. -/
structure Surroundings where
  utils : Named Rule
  excluded : List String
  glossary : Pattern.Glossary

def RuleDescriptor.scope (r : RuleDescriptor) (shared : RuleData) (around : Surroundings) : Scope :=
  ⟨r.data, shared, around.utils, around.glossary⟩

def RuleDescriptor.ruleSet (r : RuleDescriptor) (shared : RuleData) (around : Surroundings) :
    Building RuleSet := do
  let s := r.scope shared around
  let fields ← (r.eventData.getD []).mapM fun (path, ts) => return (path, ← Specifier.chain s ts)
  let ids ← Specifier.chain? s r.eventId
  let rules := RuleSet.make ids fields around.excluded
  Building.tell rules.notice
  return rules

def GroupDescriptor.ruleSet (g : GroupDescriptor) (shared : RuleData) (around : Surroundings) :
    Building RuleSet :=
  match g.rules with
  | none => pure .empty
  | some r => r.ruleSet shared around

end Allowlist
