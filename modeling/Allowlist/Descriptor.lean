import Allowlist.Range
import Allowlist.Specifier.Rule

namespace Allowlist

structure RuleDescriptor where
  eventId : Option (List String)
  eventData : Option (Named (List String))
  enums : Option (Named (List String))
  regexps : Option (Named String)

structure GroupDescriptor where
  id : String
  builds : List Range
  versions : List Range
  rules : Option RuleDescriptor

structure Descriptors where
  groups : List GroupDescriptor
  shared : RuleData

def RuleDescriptor.data (r : RuleDescriptor) : RuleData := ⟨r.enums.getD [], r.regexps.getD []⟩

end Allowlist
