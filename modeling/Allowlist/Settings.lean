import Allowlist.Named
import Allowlist.Text.Blank
import Allowlist.Text.Case
import Allowlist.Text.Pieces
import Allowlist.Text.Quoted

namespace Allowlist

inductive Environment
  | development
  | staging
  | production
  | test
  deriving DecidableEq

namespace Environment

def all : List Environment := [development, staging, production, test]

def name : Environment → String
  | development => "development"
  | staging => "staging"
  | production => "production"
  | test => "test"

def ofName? (s : String) : Option Environment := all.find? (·.name == s)

end Environment

structure Settings where
  environment : Environment
  logLevel : String
  logFormat : String
  excluded : List String
  systemEvents : List String
  salt : String
  deriving DecidableEq

namespace Settings

abbrev Source := Named String

inductive Error
  | environment (name : String)
  | logFormat (name : String)
  | missingSalt
  deriving DecidableEq

def Error.message : Error → String
  | environment name => Text.quote name ++ " is not a valid Environment"
  | logFormat name => "LOG_FORMAT " ++ name ++ " not supported. Use json or console"
  | missingSalt => "ANONYMIZATION_SALT must be set in production"

def items (s : String) : List String := ((Text.pieces ',' s).map Text.trim).filter (· ≠ "")

def defaultSystemEvents : List String :=
  ["invoked", "registered", "state.reporting.failed", "validation.too_many_events"]

def logFormats : List String := ["json", "console"]

def load (source : Source) : Except Error Settings :=
  let get (name default : String) : String := (source.lookup name).getD default
  let environment := Text.lower (get "ENVIRONMENT" "development")
  let systemEvents := items (get "VALIDATION_SYSTEM_EVENTS" "")
  match Environment.ofName? environment with
  | none => .error (.environment environment)
  | some environment => .ok
    { environment
      logLevel := Text.upper (get "LOG_LEVEL" "INFO")
      logFormat := Text.lower (get "LOG_FORMAT" "json")
      excluded := items (get "VALIDATION_EXCLUDED_FIELDS" "")
      systemEvents := if systemEvents.isEmpty then defaultSystemEvents else systemEvents
      salt := get "ANONYMIZATION_SALT" "" }

def error? (s : Settings) : Option Error :=
  if !logFormats.contains s.logFormat then some (.logFormat s.logFormat)
  else if s.environment = .production && s.salt.isEmpty then some .missingSalt
  else none

def isJson (s : Settings) : Bool := s.logFormat == "json"

/-- Reads the source again. Settings that can be read are in force even if something is wrong with
them. -/
def reload (source : Source) (s : Settings) : Settings × Option Error :=
  match load source with
  | .error e => (s, some e)
  | .ok s' => (s', s'.error?)

/-- The shared settings, and what is kept for the next request. They are read once: what could be
read is kept, even if something is wrong with it. -/
def shared (source : Source) : Option Settings → Except Error Settings × Option Settings
  | some s => (.ok s, some s)
  | none =>
    match load source with
    | .error e => (.error e, none)
    | .ok s =>
      match s.error? with
      | some e => (.error e, some s)
      | none => (.ok s, some s)

end Settings

end Allowlist
