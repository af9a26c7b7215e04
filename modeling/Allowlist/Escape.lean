import Allowlist.Verdict

namespace Allowlist

/-- What differs between kinds of text: the symbols that become a low line, and whether line breaks
and tabs become spaces or low lines too. -/
structure Escape where
  symbols : List Char
  spaces : Bool

namespace Escape

def forValue : Escape := ⟨[], true⟩

def forId : Escape := ⟨[':', ';', ',', ' '], false⟩

def forName : Escape := ⟨['.', ':', ';', ',', ' '], false⟩

def isAscii (c : Char) : Bool := c.toNat ≤ 127

def isLineOrTab (c : Char) : Bool := c = '\n' || c = '\r' || c = '\t'

def isQuote (c : Char) : Bool := c = '\'' || c = '"'

def isSymbol (e : Escape) (c : Char) : Bool :=
  e.symbols.contains c || c.toNat < 32 || c.toNat = 127

def isDirty (e : Escape) (c : Char) : Bool :=
  !isAscii c || isLineOrTab c || e.isSymbol c || isQuote c

def char (e : Escape) (c : Char) : Option Char :=
  if !isAscii c then some '?'
  else if isLineOrTab c then some (if e.spaces then ' ' else '_')
  else if e.isSymbol c then some '_'
  else if isQuote c then none
  else some c

def scrub (e : Escape) (s : String) : String := String.ofList (s.toList.filterMap e.char)

def apply (e : Escape) (s : String) : String := if s.toList.any e.isDirty then e.scrub s else s

def value (s : String) : String := forValue.apply s

def id (s : String) : String := forId.apply s

def name (s : String) : String := if isMark s then s else forName.apply s

def legacy? (s : String) : Option String :=
  if s.toList.any forId.isDirty then some (forId.scrub s) else none

theorem char_eq_self_of_not_dirty (e : Escape) {c : Char} (h : e.isDirty c = false) :
    e.char c = some c := by
  simp [isDirty] at h
  simp [char, h]

theorem filterMap_char_of_clean (e : Escape) (cs : List Char) (h : cs.any e.isDirty = false) :
    cs.filterMap e.char = cs := by
  induction cs with
  | nil => rfl
  | cons c cs ih =>
    simp only [List.any_cons, Bool.or_eq_false_iff] at h
    simp [e.char_eq_self_of_not_dirty h.1, ih h.2]

theorem apply_eq_scrub (e : Escape) (s : String) : e.apply s = e.scrub s := by
  unfold apply
  split
  · rfl
  · rename_i h
    rw [scrub, e.filterMap_char_of_clean _ (by simpa using h), String.ofList_toList]

end Escape

end Allowlist
