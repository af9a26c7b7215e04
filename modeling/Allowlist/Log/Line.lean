import Allowlist.Log.Json
import Allowlist.Log.Record

namespace Allowlist.Log

def leadingKeys : List String := ["timestamp", "level", "event", "logger"]

def isLeading : Key → Bool
  | .text s => leadingKeys.contains s
  | _ => false

def leading (es : Entries) : Entries :=
  leadingKeys.map fun k => (.text k, (Entries.get? (.text k) es).getD .null)

def correlationFirst : Entries → Entries
  | (.text "group_id", g) :: (.text "correlation_id", c) :: es =>
    (.text "correlation_id", c) :: (.text "group_id", g) :: correlationFirst es
  | e :: es => e :: correlationFirst es
  | [] => []

def consoleEntry : Key × Value → Except Failure String
  | (.text s, v) => return s ++ "=" ++ (← v.literal)
  | (k, v) => return (← k.literal) ++ "=" ++ (← v.literal)

def consoleLine (es : Entries) : Except Failure String :=
  ((leading es ++ correlationFirst (es.filter fun e => !isLeading e.1)).mapM consoleEntry).map
    (Text.join " ")

/-- The line of a message, if its level is logged and its record can be written. A record that
cannot be made fails the one who logs, unless the message is bare. -/
def Setup.line? (s : Setup) (site : Site) (b : Option Block) (m : Message) :
    Except Failure (Option String) :=
  if s.logs m then
    match s.record site b m with
    | .ok es => .ok (if s.json then Json.value? (.map es) else (consoleLine es).toOption)
    | .error e => if m.bare then .ok none else .error e
  else .ok none

end Allowlist.Log
