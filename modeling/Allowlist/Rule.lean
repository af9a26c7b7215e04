import Allowlist.Escape
import Allowlist.Regexp
import Allowlist.Value.Display

namespace Allowlist

structure Context where
  eventId : String
  data : Option Entries

inductive Rule
  | constant (v : Verdict)
  | incorrect (specifier : String)
  | enum (values : List String)
  | regexp (r : Regexp)
  | custom (name : String) (check : String → Context → Except Failure Verdict)

namespace Rule

def acceptAll : Rule := constant .accepted

def rejectAll : Rule := constant .rejected

def acceptsEither (p : String → Bool) (s : String) : Bool :=
  p s || match Escape.legacy? s with
    | some t => p t
    | none => false

def verdictOf (b : Bool) : Verdict := if b then .accepted else .rejected

def evaluate (text : String) (ctx : Context) : Rule → Except Failure Verdict
  | constant v => .ok v
  | incorrect _ => .ok .incorrectRule
  | enum values => .ok (verdictOf (acceptsEither values.contains text))
  | regexp r => .ok (verdictOf (acceptsEither r.accepts text))
  | custom _ check => check text ctx

end Rule

end Allowlist
