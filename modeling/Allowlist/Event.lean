import Allowlist.Escape.Payload

namespace Allowlist

structure Envelope where
  session : String
  build : String
  bucket : String
  time : Value
  groupId : String
  groupVersion : String
  recorderVersion : String

structure Event where
  envelope : Envelope
  id : String
  data : Option Entries
  state : Bool
  count : Value

def Envelope.escape (e : Envelope) : Envelope :=
  { session := Escape.id e.session
    build := Escape.id e.build
    bucket := Escape.id e.bucket
    time := e.time
    groupId := Escape.id e.groupId
    groupVersion := Escape.id e.groupVersion
    recorderVersion := Escape.id e.recorderVersion }

namespace Event

def escape? (e : Event) : Option Event :=
  (Entries.escape? (e.data.getD [])).map fun data =>
    { envelope := e.envelope.escape
      id := Escape.value e.id
      data := some data
      state := e.state
      count := e.count }

def add? (name : String) (v : Value) (e : Event) : Option Event :=
  e.data.map fun es => { e with data := some (Entries.put (.text (Escape.name name)) v.escape es) }

end Event

end Allowlist
