import Allowlist.Rule
import Allowlist.Text.Order

namespace Allowlist

def quotedList (ss : List String) : String := listLiteral (ss.map Text.quote)

def Rule.display : Rule → String
  | constant v => "ConstantRule(" ++ v.name ++ ")"
  | incorrect s => "IncorrectRule(" ++ Text.quote s ++ ")"
  | enum vs => "EnumRule(" ++ quotedList (Text.sortDistinct vs) ++ ")"
  | regexp r => "RegexpRule(" ++ Text.quote r.source ++ ")"
  | custom name _ => "CallableRule(" ++ Text.quote name ++ ")"

def Context.display (c : Context) : String :=
  "EventContext(event_id=" ++ Text.quote c.eventId ++ ", fields=" ++
    toString ((c.data.map List.length).getD 0) ++ ")"

end Allowlist
