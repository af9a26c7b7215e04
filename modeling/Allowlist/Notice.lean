import Allowlist.Log.Record
import Allowlist.RuleSet

namespace Allowlist

structure Unresolved where
  kind : String
  specifier : String
  deriving DecidableEq

inductive Notice
  | specifierUnresolved (u : Unresolved)
  | rulesBuilt (eventIdRules fields excluded : Nat)
  | rulesUpdated (groups excluded : Nat)
  | groupRefused (known : Bool) (version build : String)
  | eventIdReplaced (v : Verdict)
  deriving DecidableEq

namespace Notice

def count (n : Nat) : Value := .leaf (.int n)

def builtText (eventIdRules fields excluded : Nat) : String :=
  "Group rules built: " ++ toString eventIdRules ++ " event id rules, " ++ toString fields ++
    " data fields, " ++ toString excluded ++ " excluded"

def message : Notice → Log.Message
  | specifierUnresolved u =>
    ⟨"application.rule_factory", .warning, "rule_specifier_unresolved", false,
      [(.text "kind", .text u.kind), (.text "specifier", .text u.specifier)]⟩
  | rulesBuilt eventIdRules fields excluded =>
    ⟨"eventguard.domain.validation.group_rules", .debug, builtText eventIdRules fields excluded,
      true, []⟩
  | rulesUpdated groups excluded =>
    ⟨"infrastructure.rule_storage", .info, "validation_rules_updated", false,
      [(.text "groups", count groups), (.text "excluded_fields", count excluded)]⟩
  | groupRefused known version build =>
    ⟨"application.validator", .debug, "event_group_not_allowed", false,
      [(.text "known_group", .leaf (.bool known)), (.text "group_version", .text version),
       (.text "build", .text build)]⟩
  | eventIdReplaced v =>
    ⟨"application.validator", .debug, "event_id_replaced", false, [(.text "verdict", .text v.name)]⟩

def entry (b : Option Log.Block) (n : Notice) : Log.Entry := ⟨b, n.message⟩

end Notice

def RuleSet.notice (r : RuleSet) : Notice :=
  .rulesBuilt r.eventIdRules.length r.fieldRules.length (Text.sortDistinct r.excluded).length

end Allowlist
