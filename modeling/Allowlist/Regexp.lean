import Allowlist.Pattern.Match
import Allowlist.Pattern.Reader

namespace Allowlist

structure Regexp where
  source : String
  pattern : Pattern
  deriving DecidableEq

namespace Regexp

def compile (g : Pattern.Glossary) (source : String) : Except Pattern.Error Regexp :=
  (Pattern.ofText g source).map (⟨source, ·⟩)

def accepts (r : Regexp) (s : String) : Bool := r.pattern.matchesAll s.toList

def metacharacters : List Char := "()[]\x7b\x7d?*+-|^$\\.&~# \t\n\r\x0b\x0c".toList

def literalChar (c : Char) : List Char := if metacharacters.contains c then ['\\', c] else [c]

def literal (s : String) : String := String.ofList (s.toList.flatMap literalChar)

end Regexp

end Allowlist
