import Allowlist.Anonymize
import Allowlist.Log.Line
import Allowlist.Settings
import Allowlist.Validator

namespace Allowlist.Settings

def logSetup (s : Settings) : Log.Setup :=
  { environment := s.environment.name
    level := Log.Level.ofSetting s.logLevel
    json := s.isJson
    callerInfo := s.environment = .development }

def validator (s : Settings) (utils : Named Rule) (glossary : Pattern.Glossary) :
    Option Descriptors → Building Validator
  | none => pure ⟨none, s.systemEvents⟩
  | some d => return ⟨some (← Registry.load ⟨utils, s.excluded, glossary⟩ d), s.systemEvents⟩

def anonymize (s : Settings) : String → String := Allowlist.anonymize (.text s.salt)

end Allowlist.Settings
