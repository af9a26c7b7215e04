import Allowlist.Text.Case
import Allowlist.Value

namespace Allowlist.Log

inductive Level
  | debug
  | info
  | warning
  | error
  | critical
  deriving DecidableEq

namespace Level

def all : List Level := [debug, info, warning, error, critical]

def name : Level → String
  | debug => "debug"
  | info => "info"
  | warning => "warning"
  | error => "error"
  | critical => "critical"

def number : Level → Nat
  | debug => 10
  | info => 20
  | warning => 30
  | error => 40
  | critical => 50

def ofName? (s : String) : Option Level := all.find? (·.name == s)

def ofSetting (s : String) : Level :=
  ((all.find? fun l => Text.upper l.name == Text.upper s)).getD info

end Level

structure Message where
  logger : String
  level : Level
  event : String
  bare : Bool
  fields : Entries

def serviceName : String := "eventguard"

end Allowlist.Log
