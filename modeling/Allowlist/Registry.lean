import Allowlist.Descriptor.Rules

namespace Allowlist

structure Group where
  rules : Option RuleSet
  versions : List Range
  builds : List Range

namespace Group

def isAmong (p : Range → Bool) (rs : List Range) : Bool := rs.isEmpty || rs.any p

def admits (g : Group) (version : Option Int) (build : Option (List Int)) : Bool :=
  isAmong (fun r => build.any r.hasBuildNumber) g.builds &&
    isAmong (fun r => version.any r.hasVersionNumber) g.versions

def accepts (g : Group) (version build : String) : Bool :=
  g.admits (Text.integer? version) (build? build)

end Group

structure Registry where
  around : Surroundings
  groups : Named Group

namespace Registry

def group? (r : Registry) (id : String) : Option Group := r.groups.lookup id

def rules? (r : Registry) (id : String) : Option RuleSet := (r.group? id).bind (·.rules)

def accepts (r : Registry) (id version build : String) : Bool :=
  (r.group? id).any (·.accepts version build)

def build (around : Surroundings) (shared : RuleData) (g : GroupDescriptor) :
    Building (String × Group) := do
  let rules ← g.ruleSet shared around
  return (g.id, ⟨some rules, g.versions, g.builds⟩)

def update (r : Registry) (d : Descriptors) : Building Registry := do
  let groups := Named.ofList (← d.groups.mapM (build r.around d.shared))
  Building.tell (.rulesUpdated groups.length r.around.excluded.length)
  return { r with groups }

def load (around : Surroundings) (d : Descriptors) : Building Registry := update ⟨around, []⟩ d

end Registry

end Allowlist
