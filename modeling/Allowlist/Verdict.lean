import Allowlist.Value

/-!
Verdicts: the outcomes of checking one value. The mark of a verdict is also the text recorded in
place of a value that it refuses, so a text that is a mark carries no data.
-/

namespace Allowlist

inductive Verdict
  | accepted
  | thirdParty
  | rejected
  | incorrectRule
  | undefinedRule
  | unreachableMetadata
  | performActionDuringValidation
  deriving DecidableEq

namespace Verdict

def all : List Verdict :=
  [accepted, thirdParty, rejected, incorrectRule, undefinedRule, unreachableMetadata,
   performActionDuringValidation]

def mark : Verdict → String
  | accepted => "accepted"
  | thirdParty => "third.party"
  | rejected => "validation.unmatched_rule"
  | incorrectRule => "validation.incorrect_rule"
  | undefinedRule => "validation.undefined_rule"
  | unreachableMetadata => "validation.unreachable_metadata"
  | performActionDuringValidation => "perform.action.during.validation"

def isFinal : Verdict → Bool
  | incorrectRule | undefinedRule | performActionDuringValidation => false
  | _ => true

def name : Verdict → String
  | accepted => "ACCEPTED"
  | thirdParty => "THIRD_PARTY"
  | rejected => "REJECTED"
  | incorrectRule => "INCORRECT_RULE"
  | undefinedRule => "UNDEFINED_RULE"
  | unreachableMetadata => "UNREACHABLE_METADATA"
  | performActionDuringValidation => "PERFORM_ACTION_DURING_VALIDATION"

theorem mem_all (v : Verdict) : v ∈ all := by cases v <;> simp [all]

end Verdict

def isMark (s : String) : Bool := Verdict.all.any fun v => v.mark == s

theorem isMark_mark (v : Verdict) : isMark v.mark = true :=
  List.any_eq_true.2 ⟨v, v.mem_all, beq_self_eq_true _⟩

theorem isMark_iff {s : String} : isMark s = true ↔ ∃ v : Verdict, v.mark = s := by
  simp [isMark, Verdict.mem_all]

def Value.isMark : Value → Bool
  | .text s => Allowlist.isMark s
  | _ => false

end Allowlist
