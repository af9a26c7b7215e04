import Allowlist.Text.Cased
import Allowlist.Text.CaseMap

namespace Allowlist.Text

def runCode (runs : List CaseRun) (n : Nat) : Nat :=
  match runs.find? (·.has n) with
  | some r => r.apply n
  | none => n

def lowerCode (n : Nat) : Nat := if n = 0x130 then 'i'.toNat else runCode lowerRuns n

def upperCodes (n : Nat) : List Nat :=
  match upperExpansions.lookup n with
  | some ns => ns
  | none => [runCode upperRuns n]

def seesCase (cs : List Char) : Bool :=
  match cs.dropWhile fun c => caseIgnorable.has c.toNat with
  | [] => false
  | c :: _ => cased.has c.toNat

/-- A capital sigma at the end of a word takes its final form; a dotted capital I keeps its dot. -/
def lowerAt (before : List Char) (c : Char) (after : List Char) : List Char :=
  if c.toNat = 0x3A3 then [if seesCase before && !seesCase after then 'ς' else 'σ']
  else if c.toNat = 0x130 then ['i', Char.ofNat 0x307]
  else [Char.ofNat (lowerCode c.toNat)]

def lowerFrom (before : List Char) : List Char → List Char
  | [] => []
  | c :: cs => lowerAt before c cs ++ lowerFrom (c :: before) cs

def lower (s : String) : String := String.ofList (lowerFrom [] s.toList)

def upper (s : String) : String :=
  String.ofList (s.toList.flatMap fun c => (upperCodes c.toNat).map Char.ofNat)

def caseVariants (n : Nat) : List Nat :=
  let low := lowerCode n
  let lows := (sharedUpper.find? (·.contains low)).getD [low]
  lows.flatMap fun l =>
    l :: (if l = 'i'.toNat then [0x130] else []) ++ lowerRuns.filterMap (·.source? l)

def asciiCaseVariants (n : Nat) : List Nat :=
  if 'a'.toNat ≤ n && n ≤ 'z'.toNat then [n, n - 32]
  else if 'A'.toNat ≤ n && n ≤ 'Z'.toNat then [n + 32, n]
  else [n]

def asciiLowerCode (n : Nat) : Nat :=
  if 'A'.toNat ≤ n && n ≤ 'Z'.toNat then n + 32 else n

end Allowlist.Text
