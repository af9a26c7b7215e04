import Allowlist.Building
import Allowlist.Specifier

namespace Allowlist

structure RuleData where
  enums : Named (List String)
  regexps : Named String

def RuleData.empty : RuleData := ⟨[], []⟩

/-- What the specifiers of a group may name. The data of the group hides that of all groups. -/
structure Scope where
  group : RuleData
  shared : RuleData
  utils : Named Rule
  glossary : Pattern.Glossary

namespace Scope

def enum? (s : Scope) (name : String) : Option (List String) :=
  (s.group.enums.lookup name).or (s.shared.enums.lookup name)

def regexp? (s : Scope) (name : String) : Option String :=
  (s.group.regexps.lookup name).or (s.shared.regexps.lookup name)

end Scope

namespace Specifier

def isRegexpKind (kind : String) : Bool := kind = "regexp" || kind = "regex"

def Part.enum? (p : Part) (s : Scope) : Option (List String) :=
  match p.source with
  | .inline => some (Text.pieces '|' p.body)
  | .named => s.enum? p.body

def Part.regexp? (p : Part) (s : Scope) : Option String :=
  match p.source with
  | .inline => some p.body
  | .named => s.regexp? p.body

def Part.rule? (p : Part) (s : Scope) : Option (Except Pattern.Error Rule) :=
  if p.kind = "enum" then (p.enum? s).map fun vs => .ok (.enum vs)
  else if isRegexpKind p.kind then
    (p.regexp? s).map fun e => (Regexp.compile s.glossary e).map .regexp
  else if p.kind = "util" ∧ p.source = .named then (s.utils.lookup p.body).map .ok
  else none

def Part.fragment? (p : Part) (s : Scope) : Option String :=
  if p.kind = "enum" then
    (p.enum? s).map fun vs => "(?:" ++ Text.join "|" (vs.map Regexp.literal) ++ ")"
  else if isRegexpKind p.kind then (p.regexp? s).map fun t => "(?:" ++ t ++ ")"
  else none

def expression (s : Scope) : List String → Except String String
  | [] => .ok ""
  | t :: ts =>
    match read? t with
    | none => return Regexp.literal t ++ (← expression s ts)
    | some p =>
      match p.fragment? s with
      | none => .error p.kind
      | some f => return f ++ (← expression s ts)

def unresolved (kind specifier : String) : Building Rule :=
  ⟨[.specifierUnresolved ⟨kind, specifier⟩], .ok (.incorrect specifier)⟩

/-- A malformed expression leaves the specifier unresolved. What else stops the compiler is not
caught. -/
def settle (kind specifier : String) : Except Pattern.Error Rule → Building Rule
  | .ok r => pure r
  | .error .malformed => unresolved kind specifier
  | .error (.mishap m) => ⟨[], .error m⟩

def resolveExpression (s : Scope) (specifier : String) (ts : List String) : Building Rule :=
  match expression s ts with
  | .error kind => unresolved kind specifier
  | .ok e => settle "expression" specifier ((Regexp.compile s.glossary e).map .regexp)

def resolvePart (s : Scope) (specifier : String) (p : Part) : Building Rule :=
  match p.rule? s with
  | some r => settle p.kind specifier r
  | none => unresolved p.kind specifier

def resolve (s : Scope) (specifier : String) : Building Rule :=
  let ts := parts specifier
  if ts.all fun t => (read? t).isNone then pure (.enum [specifier])
  else match ts with
    | [t] =>
      match read? t with
      | some p => resolvePart s specifier p
      | none => pure (.enum [specifier])
    | _ => resolveExpression s specifier ts

def chain (s : Scope) (specifiers : List String) : Building Chain := specifiers.mapM (resolve s)

def chain? (s : Scope) (specifiers : Option (List String)) : Building Chain :=
  chain s (specifiers.getD [])

end Specifier

end Allowlist
