import Allowlist.Log.Context
import Allowlist.Log.Message
import Allowlist.Log.Redact
import Allowlist.Text.Utf8

namespace Allowlist.Log

def setDefault (k : Key) (v : Value) (es : Entries) : Entries :=
  match Entries.get? k es with
  | some _ => es
  | none => Entries.put k v es

def setDefaults (defaults es : Entries) : Entries :=
  defaults.foldl (fun es (k, v) => setDefault k v es) es

def withEnvironment (environment : String) : Entries → Entries :=
  setDefault (.text "environment") (.text environment)

def Message.entries (m : Message) : Entries :=
  let event := (Key.text "event", Value.text m.event)
  if m.bare then [event]
  else Entries.ofList ((.text "service", .text serviceName) :: m.fields ++ [event])

def Message.content (m : Message) (b : Option Block) : Except Failure Entries :=
  redact (Entries.put (.text "level") (.text m.level.name)
    (setDefaults (Context.bound b) m.entries))

structure Entry where
  block : Option Block
  message : Message

def Entry.contents (es : List Entry) : List (Except Failure Entries) :=
  (es.filter fun e => !e.message.bare).map fun e => e.message.content e.block

def decoded : Value → Value
  | .leaf (.bytes bs) => .text (Text.ofUtf8Lossy bs)
  | v => v

structure Site where
  time : String
  file : String
  function : String
  line : Nat

structure Setup where
  environment : String
  level : Level
  json : Bool
  callerInfo : Bool

def Setup.showsCaller (s : Setup) : Bool := s.callerInfo && s.environment == "development"

def Setup.record (s : Setup) (site : Site) (b : Option Block) (m : Message) :
    Except Failure Entries := do
  let es := withEnvironment s.environment (setDefaults (Context.bound b) m.entries)
  let es := Entries.put (.text "timestamp") (.text site.time) es
  let es := Entries.put (.text "level") (.text m.level.name) es
  let es := Entries.put (.text "logger") (.text m.logger) es
  let es ← redact (es.map fun (k, v) => (k, decoded v))
  if s.showsCaller then
    let es := Entries.put (.text "filename") (.text site.file) es
    let es := Entries.put (.text "func_name") (.text site.function) es
    return Entries.put (.text "lineno") (.leaf (.int site.line)) es
  else return es

def Setup.logs (s : Setup) (m : Message) : Bool := s.level.number ≤ m.level.number

end Allowlist.Log
